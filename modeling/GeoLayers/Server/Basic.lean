import GeoLayers.Catalog.Lookup
import GeoLayers.Classification.Renderer
import GeoLayers.Edit.Apply
import GeoLayers.Layer.Description
import GeoLayers.Query.Answer
import GeoLayers.Query.Places
import GeoLayers.Registry

/-!
What the service does for a client. What can be checked without the database is checked first; then
a connection is asked for and the columns of the layer are looked up.
-/

namespace GeoLayers

open Database

/-- A service with its registry. -/
structure Server where
  settings : Settings := {}
  registry : Registry := .empty

/-- The parameters of a request for a classification. -/
structure RendererParameters where
  definition : Option String := none
  clause : Option String := none
  deriving DecidableEq, Repr, Inhabited

namespace Server

def serviceInfo (server : Server) (id : String) : Except Error Json :=
  (server.registry.service id).map fun service => service.describe server.settings

/-- Asks for a connection and looks up the columns of a layer. -/
def openLayer (layer : Layer) : Work Catalog := do
  Work.checkout
  Catalog.lookup layer

def layerInfo (server : Server) (service : String) (id : Int) : Work Json := do
  let (_, layer) ← server.registry.layer service id
  let catalog ← openLayer layer
  let extent ← layer.askExtent
  let times ← layer.askTimeExtent
  pure (layer.describe catalog extent times server.settings)

/-- Answers a query. A table holds features, whatever else the query asks for. -/
def query (server : Server) (service : String) (id : Int) (parameters : QueryParameters) :
    Work QueryAnswer := do
  let (service, layer) ← server.registry.layer service id
  let request ← parameters.toRequest server.settings
  let request := if parameters.wantsCsv then request.forTable else request
  let catalog ← openLayer layer
  let page ← Page.load layer catalog request
  if parameters.wantsCsv then QueryAnswer.csvOfPage layer request page
  else QueryAnswer.ofPage layer catalog service.reference request page

/-- Counts the rows at each place of a layer that has times. -/
def timeQuery (server : Server) (service : String) (id : Int) : Work Json := do
  let (_, layer) ← server.registry.layer service id
  if layer.timeField?.isNone then throw (.request (.noTime layer.id))
  Work.checkout
  let places ← layer.askPlaces
  pure (layer.placesJson places)

/-- Carries out edits. -/
def applyEdits (server : Server) (service : String) (id : Int) (parameters : Edit.Parameters) :
    Work Edit.Results := do
  let (_, layer) ← server.registry.layer service id
  let batch ← parameters.toBatch
  let catalog ← openLayer layer
  Edit.apply layer catalog batch

/-- Describes how a layer is drawn by its values. -/
def generateRenderer (server : Server) (service : String) (id : Int)
    (parameters : RendererParameters) : Work Classification.Renderer := do
  let (_, layer) ← server.registry.layer service id
  let text ← match parameters.definition with
    | some text => pure text
    | none => throw (.request .noDefinition)
  let definition ← Classification.Definition.ofText text
  let catalog ← openLayer layer
  definition.load layer catalog parameters.clause

end Server

end GeoLayers
