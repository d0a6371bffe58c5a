import GeoLayers.Connection.Certificate
import GeoLayers.Connection.Pem
import GeoLayers.Connection.Target
import GeoLayers.Settings.Basic

/-!
How connections to the database are set up. The text that names the database has to be readable, and
so do the files for encryption; whether anything answers is seen only later.
-/

namespace GeoLayers

/-- The texts of the files that there are, by their paths. -/
abbrev Files := String → Option String

/-- What is wrong with how connections are set up. -/
inductive ConnectionFault where
  | databaseUrl
  /-- A file under the name of a variable is not there. -/
  | noFile (name path : String)
  | unreadableFile (name : String)
  | rootCertificate
  | halfIdentity
  | noCertificate
  | noKey
  | identity (rootPath : String)
  deriving DecidableEq, Repr, Inhabited

def ConnectionFault.message : ConnectionFault → String
  | .databaseUrl => "invalid database URL"
  | .noFile name path => "failed to open " ++ name ++ " file '" ++ path ++ "'"
  | .unreadableFile name => "failed to parse " ++ name
  | .rootCertificate => "invalid certificate in PGSSLROOTCERT"
  | .halfIdentity => "PGSSLCERT and PGSSLKEY must both be set (or neither)"
  | .noCertificate => "PGSSLCERT contained no certificates"
  | .noKey => "PGSSLKEY contained no private keys"
  | .identity path => "failed to build client TLS config for " ++ path

namespace Connection

/-- The variables that name the files. -/
def rootVariable : String := "PGSSLROOTCERT"

def certificateVariable : String := "PGSSLCERT"

def keyVariable : String := "PGSSLKEY"

/-- The sections of a file. -/
def sectionsOf (files : Files) (name path : String) : Except ConnectionFault Pem.Sections :=
  match files path with
  | none => .error (.noFile name path)
  | some text => .ok (Pem.sections text)

/-- The certificates in a file, all of which has to be read. -/
def certificatesOf (files : Files) (name path : String) :
    Except ConnectionFault (List (List UInt8)) := do
  let sections ← sectionsOf files name path
  if !sections.complete then throw (.unreadableFile name)
  pure ((sections.found.filter (·.kind == .certificate)).map (·.content))

/-- The first private key in a file. What follows it is not read. -/
def keyOf (files : Files) (path : String) : Except ConnectionFault (List UInt8) := do
  let sections ← sectionsOf files keyVariable path
  match sections.found.find? (·.kind == .privateKey) with
  | some found => pure found.content
  | none => throw (if sections.complete then .noKey else .unreadableFile keyVariable)

/-- Checks the certificates and the key that the service shows to the database. -/
def checkIdentity (files : Files) (rootPath certificatePath keyPath : String) :
    Except ConnectionFault Unit := do
  match ← certificatesOf files certificateVariable certificatePath with
  | [] => throw .noCertificate
  | first :: _ =>
    let key ← keyOf files keyPath
    if isPrivateKey key && isCertificate first then pure () else throw (.identity rootPath)

/-- Checks the files for encryption. Without root certificates nothing is encrypted, and the other
files do not matter. -/
def checkFiles (files : Files) (root certificate key : Option String) :
    Except ConnectionFault Unit :=
  match root with
  | none => .ok ()
  | some rootPath => do
    let roots ← certificatesOf files rootVariable rootPath
    if !roots.all isCertificate then throw .rootCertificate
    match certificate, key with
    | none, none => pure ()
    | some certificatePath, some keyPath =>
      checkIdentity files rootPath certificatePath keyPath
    | _, _ => throw .halfIdentity

/-- Checks how connections are set up. -/
def check (files : Files) (settings : Settings) : Except ConnectionFault Unit :=
  match Target.ofText? settings.databaseUrl with
  | none => .error .databaseUrl
  | some _ => checkFiles files settings.rootCertificate settings.certificate settings.key

end Connection

end GeoLayers
