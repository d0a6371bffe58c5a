import GeoLayers.Server.Basic
import GeoLayers.Server.Route

/-!
The response to a request. A path that leads nowhere, a method that does not fit and parameters that
cannot be read are told by their status alone; all other errors have a description.
-/

namespace GeoLayers

open Database Http

def QueryParameters.ofForm? (form : Form) : Option QueryParameters := do
  let clause ← form.value? ["where"]
  let objectIds ← form.value? ["objectIds"]
  let geometryType ← form.value? ["geometryType"]
  let geometry ← form.value? ["geometry"]
  let time ← form.value? ["time"]
  let outFields ← form.value? ["outFields"]
  let orderByFields ← form.value? ["orderByFields"]
  let returnIdsOnly ← form.value? ["returnIdsOnly"]
  let returnCountOnly ← form.value? ["returnCountOnly"]
  let returnGeometry ← form.value? ["returnGeometry"]
  let outSR ← form.value? ["outSR"]
  let limit ← form.value? ["limit", "resultRecordCount"]
  let offset ← form.value? ["offset", "resultOffset"]
  let format ← form.value? ["f"]
  some { clause, objectIds, geometryType, geometry, time, outFields, orderByFields,
         returnIdsOnly, returnCountOnly, returnGeometry, outSR, limit, offset, format }

def RendererParameters.ofForm? (form : Form) : Option RendererParameters := do
  let definition ← form.value? ["classificationDef"]
  let clause ← form.value? ["where"]
  some { definition, clause }

def Edit.Parameters.ofForm? (form : Form) : Option Edit.Parameters := do
  let adds ← form.value? ["adds"]
  let updates ← form.value? ["updates"]
  let deletes ← form.value? ["deletes"]
  some { adds, updates, deletes }

/-- What comes of a request: content, an error that is described, or a status alone. -/
abbrev Handler := ExceptT Nat Session (Except Error Content)

namespace Handler

/-- A status alone. -/
def refuse {α : Type} (status : Nat) : ExceptT Nat Session α := throw status

/-- A value that was read from the request. -/
def reading {α : Type} (status : Nat) : Option α → ExceptT Nat Session α
  | some value => pure value
  | none => refuse status

/-- Work whose result is the content. -/
def content {α : Type} (encode : α → Content) (work : Work α) : Handler := do
  let result ← ExceptT.lift (ExceptT.run work)
  pure (result.map encode)

end Handler

namespace QueryAnswer

/-- The content of the answer to a query. -/
def content : QueryAnswer → Content
  | .csv text => .table "query.csv" text
  | answer => .json answer.toJson

end QueryAnswer

namespace Server

/-- The form of a request: its query, or its body if it was posted. -/
def formOf (request : Request) : ExceptT Nat Session Form :=
  if request.method = .post then
    if request.hasForm then pure (.ofText request.body) else Handler.refuse 415
  else pure (.ofText request.query)

/-- The status for parameters that cannot be read. -/
def formStatus (request : Request) : Nat := if request.method = .post then 422 else 400

/-- Whether a request has the key that edits need, if they need one. -/
def hasKey (server : Server) (request : Request) : Bool :=
  match server.settings.apiKey with
  | none => true
  | some key => request.header? "x-api-key" == some key

/-- The service and the layer that a route names. -/
def target (route : Route) : ExceptT Nat Session (String × Int) := do
  let service ← Handler.reading 400 route.serviceId?
  let layer ← Handler.reading 400 route.layerId?
  pure (service, layer)

/-- Serves a request at an endpoint. -/
def serve (server : Server) (request : Request) (route : Route) : Handler :=
  match route.endpoint with
  | .health => pure (.ok (.json (.object [("status", .text "ok")])))
  | .service => do
    let service ← Handler.reading 400 route.serviceId?
    pure ((server.serviceInfo service).map .json)
  | .layer => do
    let (service, layer) ← target route
    Handler.content .json (server.layerInfo service layer)
  | .query => do
    let (service, layer) ← target route
    let form ← formOf request
    let parameters ← Handler.reading (formStatus request) (QueryParameters.ofForm? form)
    Handler.content QueryAnswer.content (server.query service layer parameters)
  | .renderer => do
    let (service, layer) ← target route
    let form ← formOf request
    let parameters ← Handler.reading (formStatus request) (RendererParameters.ofForm? form)
    Handler.content (fun renderer => .json renderer.toJson)
      (server.generateRenderer service layer parameters)
  | .edits => do
    let (service, layer) ← target route
    let form ← formOf request
    let parameters ← Handler.reading (formStatus request) (Edit.Parameters.ofForm? form)
    if server.hasKey request then
      Handler.content (fun results => .json results.toJson)
        (server.applyEdits service layer parameters)
    else pure (.error .unauthorized)
  | .times => do
    let (service, layer) ← target route
    Handler.content .json (server.timeQuery service layer)

/-- The response to a request. -/
def respond (server : Server) (request : Request) : Session Response :=
  match Route.ofPath? request.path with
  | none => pure ⟨404, .none⟩
  | some route =>
    if !route.endpoint.serves request.method then pure ⟨405, .none⟩
    else do
      match ← ExceptT.run (server.serve request route) with
      | .error status => pure ⟨status, .none⟩
      | .ok result =>
        let response := Response.ofResult result
        pure (if request.method = .head then ⟨response.status, .none⟩ else response)

end Server

end GeoLayers
