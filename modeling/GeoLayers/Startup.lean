import GeoLayers.Connection.Basic
import GeoLayers.Server.Basic
import GeoLayers.Settings.Environment

/-!
How the service starts: it reads its settings from the environment, then its registry from a file,
then checks how connections to the database are set up.
-/

namespace GeoLayers

/-- Why the service does not start. -/
inductive StartupFault where
  | settings (fault : SettingsFault)
  /-- The file with the registry is not there. -/
  | noRegistry (path : String)
  | registry (path : String) (fault : RegistryFault)
  | connection (fault : ConnectionFault)
  deriving DecidableEq, Repr, Inhabited

def StartupFault.message : StartupFault → String
  | .settings fault => fault.message
  | .noRegistry path => "failed to read service registry '" ++ path ++ "'"
  | .registry path _ => "invalid service registry '" ++ path ++ "'"
  | .connection fault => fault.message

namespace Registry

/-- The registry in a file. -/
def load (files : Files) (path : String) : Except StartupFault Registry :=
  match files path with
  | none => .error (.noRegistry path)
  | some text => (Registry.ofText text).mapError (.registry path)

end Registry

namespace Server

/-- The service as the environment and the files set it up. -/
def start (env : Environment) (files : Files) : Except StartupFault Server := do
  let settings ← env.settings.mapError .settings
  let registry ← Registry.load files settings.registryPath
  (Connection.check files settings).mapError .connection
  pure { settings, registry }

end Server

end GeoLayers
