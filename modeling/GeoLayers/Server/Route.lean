import GeoLayers.Http.Message
import GeoLayers.Number.Numeral

/-!
What a path stands for. A path is cut at its slashes; the parts that name a service or a layer are
kept as they were sent, and are read only when the method of the request is known to fit.
-/

namespace GeoLayers

/-- What can be asked for at a path. -/
inductive Endpoint where
  | health | service | layer | query | renderer | edits | times
  deriving DecidableEq, Repr, Inhabited

/-- The methods that an endpoint serves. Where it serves GET it serves HEAD. -/
def Endpoint.serves : Endpoint → Http.Method → Bool
  | .edits, method => method = .post
  | .health, method | .service, method | .layer, method => method = .get || method = .head
  | .query, method | .renderer, method | .times, method =>
    method = .get || method = .head || method = .post

/-- A path with the parts that were kept. -/
structure Route where
  endpoint : Endpoint
  /-- The id of the service. -/
  service : String := ""
  /-- The number of the layer. -/
  layer : String := ""
  deriving DecidableEq, Repr, Inhabited

namespace Route

/-- The endpoint under a layer with a name. -/
def layerEndpoint? (name : String) : Option Endpoint :=
  if name = "query" then some .query
  else if name = "generateRenderer" then some .renderer
  else if name = "applyEdits" then some .edits
  else if name = "time-query" then some .times
  else none

/-- The route of what follows the id of a service. The last part of a path is not empty. -/
def ofServicePath? (service : String) : List String → Option Route
  | ["FeatureServer"] => some { endpoint := .service, service }
  | ["FeatureServer", layer] => if layer = "" then none else some ⟨.layer, service, layer⟩
  | ["FeatureServer", layer, name] =>
    (layerEndpoint? name).map fun endpoint => ⟨endpoint, service, layer⟩
  | _ => none

def ofPath? (path : String) : Option Route :=
  match Text.splitAt '/' path with
  | ["", "healthz"] => some { endpoint := .health }
  | "" :: "rest" :: "services" :: service :: rest => ofServicePath? service rest
  | _ => none

/-- A kept part with its percent signs resolved. It has to be a text. -/
def part? (raw : String) : Option String := Text.ofUtf8? (Http.percentDecode (Text.toUtf8 raw))

/-- The id of the service. -/
def serviceId? (route : Route) : Option String := part? route.service

/-- The number of the layer. -/
def layerId? (route : Route) : Option Int := (part? route.layer).bind Number.int32?

end Route

end GeoLayers
