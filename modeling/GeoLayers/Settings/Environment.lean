import GeoLayers.Settings.Address

/-!
Settings out of the environment. Names of variables count whether their letters are large or small;
a variable that is there twice, or whose number cannot be read, is refused.
-/

namespace GeoLayers

/-- What is wrong with the environment. -/
inductive SettingsFault where
  | unreadable
  | address
  | hostAndPort
  | noDatabase
  deriving DecidableEq, Repr, Inhabited

def SettingsFault.message : SettingsFault → String
  | .unreadable => "failed to parse FEATURESERV_* environment variables"
  | .address => "invalid FEATURESERV_LISTEN_ADDR value"
  | .hostAndPort => "invalid listen host/port combination"
  | .noDatabase => "FEATURESERV_DATABASE_URL or DATABASE_URL must be set"

/-- The variables of the environment with their values. -/
abbrev Environment := List (String × String)

namespace Environment

/-- The value of a variable. Fails if there are several. -/
def text? (env : Environment) (name : String) : Option (Option String) :=
  match env.filter fun entry => Text.asciiLower entry.1 == Text.asciiLower name with
  | [] => some none
  | [(_, value)] => some (some value)
  | _ => none

/-- The value of a variable that is a number. -/
def number? (env : Environment) (read : String → Option Int) (name : String) :
    Option (Option Int) := do
  match ← env.text? name with
  | none => some none
  | some value => (read value).map some

/-- A value that is more than blanks. -/
def nonBlank (value : Option String) : Option String := value.filter fun s => !Text.isBlankText s

/-- The settings as they stand in the environment. -/
structure Raw where
  address : Option String
  host : Option String
  port : Option Int
  databaseUrl : Option String
  settings : Settings

/-- The limits: the default is at least one, the maximum at least the default. -/
def withLimits (settings : Settings) (default max : Option Int) : Settings :=
  let defaultLimit := Max.max (default.getD settings.defaultLimit) 1
  { settings with
    defaultLimit := defaultLimit
    maxLimit := Max.max (max.getD settings.maxLimit) defaultLimit }

/-- Reads all variables. -/
def raw? (env : Environment) : Option Raw := do
  let address ← env.text? "FEATURESERV_LISTEN_ADDR"
  let host ← env.text? "FEATURESERV_LISTEN_HOST"
  let port ← env.number? (Number.word? 16) "FEATURESERV_LISTEN_PORT"
  let ownUrl ← env.text? "FEATURESERV_DATABASE_URL"
  let commonUrl ← env.text? "DATABASE_URL"
  let poolSize ← env.number? (Number.word? 32) "FEATURESERV_MAX_POOL_SIZE"
  let root ← env.text? "PGSSLROOTCERT"
  let certificate ← env.text? "PGSSLCERT"
  let key ← env.text? "PGSSLKEY"
  let apiKey ← env.text? "FEATURESERV_API_KEY"
  let registryPath ← env.text? "FEATURESERV_REGISTRY_PATH"
  let defaultLimit ← env.number? Number.int64? "FEATURESERV_DEFAULT_LIMIT"
  let maxLimit ← env.number? Number.int64? "FEATURESERV_MAX_LIMIT"
  let timeout ← env.number? (Number.word? 64) "FEATURESERV_REQUEST_TIMEOUT_SECS"
  let usual : Settings := {}
  let settings : Settings :=
    { usual with
      poolSize := (poolSize.map Int.toNat).getD usual.poolSize
      rootCertificate := nonBlank root
      certificate := nonBlank certificate
      key := nonBlank key
      apiKey := nonBlank apiKey
      registryPath := registryPath.getD usual.registryPath
      timeoutSeconds := Max.max ((timeout.map Int.toNat).getD usual.timeoutSeconds) 1 }
  some { address, host, port, databaseUrl := ownUrl.or commonUrl
         settings := withLimits settings defaultLimit maxLimit }

/-- The address to listen at: the one that is given, or a host and a port. -/
def listenAddress (raw : Raw) : Except SettingsFault SocketAddress :=
  match raw.address with
  | some text =>
    match SocketAddress.resolve? text with
    | some address => .ok address
    | none => .error .address
  | none =>
    let port := raw.port.getD raw.settings.address.port
    match SocketAddress.resolve? (raw.host.getD "0.0.0.0" ++ ":" ++ toString port) with
    | some address => .ok address
    | none => .error .hostAndPort

/-- The settings of the service. -/
def settings (env : Environment) : Except SettingsFault Settings :=
  match env.raw? with
  | none => .error .unreadable
  | some raw => do
    let address ← listenAddress raw
    match raw.databaseUrl with
    | none => throw .noDatabase
    | some databaseUrl => pure { raw.settings with address, databaseUrl }

end Environment

end GeoLayers
