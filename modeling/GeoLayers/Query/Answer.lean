import GeoLayers.Catalog.Json
import GeoLayers.Query.Assemble
import GeoLayers.Query.Csv
import GeoLayers.Query.Page

/-!
What a client gets for a query: object ids, a count, features, or a table of comma-separated
values.
-/

namespace GeoLayers

/-- Features with what is needed to read them. -/
structure FeatureSet where
  exceeded : Bool
  fields : List Field
  kind : GeometryKind
  reference : SpatialReference
  features : List Feature
  /-- The columns of the related tables by their titles. -/
  relatedFields : Option (Dictionary (List Field)) := none

inductive QueryAnswer where
  | ids (field : String) (exceeded : Bool) (values : List Json)
  | count (row : Attributes)
  | features (set : FeatureSet)
  | csv (table : String)

/-- Whether a row has columns of related tables. -/
def Attributes.hasRelated (row : Attributes) : Bool := row.keys.any fun key => '.' ∈ key.toList

namespace FeatureSet

def ofPage (layer : Layer) (catalog : Catalog) (reference : SpatialReference)
    (request : QueryRequest) (page : Page) : Except Error FeatureSet := do
  let hasRelated := (page.rows.head?.map Attributes.hasRelated).getD false
  let relatedFields :=
    if request.includesRelated && hasRelated then
      some (Dictionary.ofList (catalog.related.map fun related =>
        (related.relation.title, related.fields)))
    else none
  let features ← assemble layer page.rows
  pure { exceeded := page.exceeded, fields := catalog.fields, kind := layer.kind, reference,
         features, relatedFields }

def toJson (set : FeatureSet) : Json :=
  Json.ofMembers
    [("count", some (.integer set.features.length)),
      ("exceededTransferLimit", some (.bool set.exceeded)),
      ("fields", some (Field.listJson set.fields)),
      ("geometryType", some set.kind.toJson),
      ("spatialReference", some set.reference.toJson),
      ("features", some (.array (set.features.map Feature.toJson))),
      ("relatedFields", set.relatedFields.map fun fields =>
        .object (fields.entries.map fun (title, fields) => (title, Field.listJson fields)))]

end FeatureSet

namespace QueryAnswer

/-- The answer to a query in the service's usual form. A count is the first row as it is. -/
def ofPage (layer : Layer) (catalog : Catalog) (reference : SpatialReference)
    (request : QueryRequest) (page : Page) : Except Error QueryAnswer :=
  if request.idsOnly then
    .ok (.ids layer.objectIdField page.exceeded (page.rows.filterMap (·.find? layer.objectIdField)))
  else if request.countOnly then .ok (.count (page.rows.headD .empty))
  else (FeatureSet.ofPage layer catalog reference request page).map .features

/-- The answer to a query as a table. Only the first page has a header. -/
def csvOfPage (layer : Layer) (request : QueryRequest) (page : Page) : Except Error QueryAnswer :=
  (Csv.table layer.kind (request.offset == 0) page.rows).map .csv

/-- The answer as JSON, unless it is a table. -/
def toJson : QueryAnswer → Json
  | .ids field exceeded values =>
    .object [("count", .integer values.length), ("exceededTransferLimit", .bool exceeded),
      ("objectIdFieldName", .text field), ("objectIds", .array values)]
  | .count row => row.toJson
  | .features set => set.toJson
  | .csv table => .text table

end QueryAnswer

/-- A query whose answer is a table asks for features. -/
def QueryRequest.forTable (request : QueryRequest) : QueryRequest :=
  { request with idsOnly := false, countOnly := false }

end GeoLayers
