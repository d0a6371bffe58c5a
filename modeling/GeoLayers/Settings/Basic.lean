import GeoLayers.Number.Numeral

/-!
How the service is set up.
-/

namespace GeoLayers

/-- An address to listen at. An address of version 6 has eight groups of 16 bits. -/
inductive HostAddress where
  | v4 (a b c d : Nat)
  | v6 (groups : List Nat) (scope : Nat)
  deriving DecidableEq, Repr, Inhabited

structure SocketAddress where
  host : HostAddress
  port : Nat
  deriving DecidableEq, Repr, Inhabited

structure Settings where
  address : SocketAddress := ⟨.v4 0 0 0 0, 8490⟩
  databaseUrl : String := ""
  poolSize : Nat := 10
  /-- The files for encrypted connections. -/
  rootCertificate : Option String := none
  certificate : Option String := none
  key : Option String := none
  /-- The key that a client has to send to change features. -/
  apiKey : Option String := none
  registryPath : String := "services.json"
  defaultLimit : Int := 10000
  maxLimit : Int := 10000
  timeoutSeconds : Nat := 30
  deriving DecidableEq, Repr, Inhabited

/-- The limit for a query: what the client asks for, up to the maximum, or the default. -/
def Settings.effectiveLimit (settings : Settings) (requested : Option Int) : Int :=
  match requested with
  | some limit => if 0 < limit then min limit settings.maxLimit else settings.defaultLimit
  | none => settings.defaultLimit

end GeoLayers
