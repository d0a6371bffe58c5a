import GeoLayers.Startup

/-!
The command line: checks how the service is set up by the environment and the files that it names,
and tells where it is to listen, or why it cannot start.
-/

namespace GeoLayers

/-- The variables that are looked at. -/
def Environment.names : List String :=
  ["FEATURESERV_LISTEN_ADDR", "FEATURESERV_LISTEN_HOST", "FEATURESERV_LISTEN_PORT",
    "FEATURESERV_DATABASE_URL", "DATABASE_URL", "FEATURESERV_MAX_POOL_SIZE", "PGSSLROOTCERT",
    "PGSSLCERT", "PGSSLKEY", "FEATURESERV_API_KEY", "FEATURESERV_REGISTRY_PATH",
    "FEATURESERV_DEFAULT_LIMIT", "FEATURESERV_MAX_LIMIT", "FEATURESERV_REQUEST_TIMEOUT_SECS"]

/-- The files that settings name. -/
def Settings.paths (settings : Settings) : List String :=
  settings.registryPath :: settings.rootCertificate.toList ++ settings.certificate.toList ++
    settings.key.toList

/-- The variables that are set. -/
def readEnvironment : IO Environment :=
  Environment.names.filterMapM fun name : String => do
    return (← IO.getEnv name).map (name, ·)

/-- The texts of the files that can be read. -/
def readFiles (paths : List String) : IO Files := do
  let texts ← paths.filterMapM fun path : String => do
    try
      return some (path, ← IO.FS.readFile path)
    catch _ =>
      return none
  return fun path => texts.lookup path

end GeoLayers

open GeoLayers in
def main : IO UInt32 := do
  let env ← readEnvironment
  let paths := match env.settings with
    | .ok settings => settings.paths
    | .error _ => []
  let files ← readFiles paths
  match Server.start env files with
  | .ok server =>
    IO.println ("listening at " ++ server.settings.address.text)
    return 0
  | .error fault =>
    IO.eprintln ("Error: " ++ fault.message)
    return 1
