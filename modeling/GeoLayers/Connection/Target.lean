import GeoLayers.Http.Form
import GeoLayers.Settings.Address

/-!
Which database to connect to. The text is either an address with the scheme `postgres` or a list of
parameters, each a name, an equals sign and a value. Both come down to parameters by name, whose
values have to fit.
-/

namespace GeoLayers.Connection

/-- The parameters of a connection, in the order of the text. -/
abbrev Target := List (String × String)

namespace Target

/-- One of some words. -/
def isOneOf (values : List String) (value : String) : Bool := values.contains value

def isPort (value : String) : Bool := value.isEmpty || (Number.word? 16 value).isSome

/-- Whether a value fits a parameter. Other parameters than these do not exist. -/
def fits (name value : String) : Bool :=
  match name with
  | "user" | "password" | "dbname" | "options" | "application_name" | "host" => true
  | "port" => (Text.splitAt ',' value).all isPort
  | "hostaddr" => (Text.splitAt ',' value).all fun text => (HostAddress.ofText? text).isSome
  | "sslmode" => isOneOf ["disable", "prefer", "require"] value
  | "sslnegotiation" => isOneOf ["postgres", "direct"] value
  | "channel_binding" => isOneOf ["disable", "prefer", "require"] value
  | "load_balance_hosts" => isOneOf ["disable", "random"] value
  | "target_session_attrs" => isOneOf ["any", "read-write", "read-only"] value
  | "connect_timeout" | "tcp_user_timeout" | "keepalives_idle" | "keepalives_interval" =>
    (Number.int64? value).isSome
  | "keepalives" => (Number.word? 64 value).isSome
  | "keepalives_retries" => (Number.word? 32 value).isSome
  | _ => false

/-- A part of an address with its percent signs resolved. -/
def decoded? (cs : List Char) : Option String :=
  Text.ofUtf8? (Http.percentDecode (Text.toUtf8 (String.ofList cs)))

/-- A part of an address that is not read any further. -/
def decodedLossy (cs : List Char) : String :=
  Text.ofUtf8Lossy (Http.percentDecode (Text.toUtf8 (String.ofList cs)))

/-- A host. One that begins with a slash is the directory of a socket, whose name may hold any
bytes. -/
def host? (cs : List Char) : Option String :=
  let text := decodedLossy cs
  if text.startsWith "/" then some text else decoded? cs

/-- The user and the password before the address of the host. -/
def credentials? (cs : List Char) : Option Target :=
  match Text.cutFirst ':' cs with
  | some (user, password) => do
    let user ← decoded? user
    some [("user", user), ("password", decodedLossy password)]
  | none => do
    let user ← decoded? cs
    some [("user", user)]

/-- Cuts a host and its port. An address of version 6 stands in square brackets. -/
def cutPort? (cs : List Char) : Option (List Char × List Char) :=
  let usual := "5432".toList
  match cs with
  | '[' :: rest =>
    match Text.cutFirst ']' rest with
    | none => none
    | some (host, []) => some (host, usual)
    | some (host, ':' :: port) => some (host, port)
    | some _ => none
  | _ => some ((Text.cutFirst ':' cs).getD (cs, usual))

/-- One host with its port. -/
def hostAndPort? (cs : List Char) : Option Target := do
  let (host, port) ← cutPort? cs
  let host ← host? host
  let port ← decoded? port
  some [("host", host), ("port", port)]

/-- The hosts with their ports. -/
def hosts? (cs : List Char) : Option Target :=
  if cs.isEmpty then some []
  else ((Text.splitWhen (· == ',') cs).mapM hostAndPort?).map List.flatten

/-- One parameter after the question mark. -/
def option? (cs : List Char) : Option (String × String) := do
  let (name, value) ← Text.cutFirst '=' cs
  let name ← decoded? name
  let value ← if name = "host" then host? value else decoded? value
  some (name, value)

/-- The parameters after the question mark. What follows the last ampersand may be empty. -/
def options? (cs : List Char) : Option Target :=
  let parts := Text.splitWhen (· == '&') cs
  let parts := if parts.getLast? = some [] then parts.dropLast else parts
  parts.mapM option?

/-- The parameters of an address without its scheme. -/
def ofAddress? (cs : List Char) : Option Target := do
  let (credentials, cs) ← match Text.cutFirst '@' cs with
    | some (before, after) => (credentials? before).map (·, after)
    | none => some ([], cs)
  let hosts ← hosts? (cs.takeWhile fun c => c != '/' && c != '?')
  let rest := cs.dropWhile fun c => c != '/' && c != '?'
  let path := rest.takeWhile (· != '?')
  let name ← decoded? (path.drop 1)
  let options ← options? ((rest.dropWhile (· != '?')).drop 1)
  some (credentials ++ hosts ++ (if name.isEmpty then [] else [("dbname", name)]) ++ options)

/-- Reads a value up to a character that ends it; a backslash takes the next character as it is.
Gives the value and what follows, from the end on. -/
def readValue (ends : Char → Bool) : List Char → List Char × List Char
  | [] => ([], [])
  | ['\\'] => ([], [])
  | '\\' :: c :: cs =>
    let (value, rest) := readValue ends cs
    (c :: value, rest)
  | c :: cs =>
    if ends c then ([], c :: cs)
    else
      let (value, rest) := readValue ends cs
      (c :: value, rest)

/-- The value of a parameter and the rest: between single quotes, or up to the next blank. -/
def value? (cs : List Char) : Option (List Char × List Char) :=
  match cs with
  | '\'' :: cs =>
    match readValue (· == '\'') cs with
    | (value, '\'' :: rest) => some (value, rest)
    | _ => none
  | cs =>
    match readValue Text.isBlank cs with
    | ([], _) => none
    | (value, rest) => some (value, rest)

/-- Reads parameters, at most `count` of them. A text that is read up to an equals sign without a
name before it ends there. -/
def ofList? : (count : Nat) → List Char → Option Target
  | 0, _ => some []
  | count + 1, cs =>
    let cs := Text.trimStart cs
    let isName (c : Char) := !Text.isBlank c && c != '='
    let name := cs.takeWhile isName
    if name.isEmpty then some []
    else
      match Text.trimStart (cs.dropWhile isName) with
      | '=' :: cs => do
        let (value, rest) ← value? (Text.trimStart cs)
        let others ← ofList? count rest
        some ((String.ofList name, String.ofList value) :: others)
      | _ => none

/-- The parameters of a text, all of which fit. -/
def ofText? (text : String) : Option Target := do
  let parameters ←
    match Text.stripStart "postgres://" text <|> Text.stripStart "postgresql://" text with
    | some rest => ofAddress? rest.toList
    | none => ofList? text.length text.toList
  if parameters.all fun (name, value) => fits name value then some parameters else none

end Target

end GeoLayers.Connection
