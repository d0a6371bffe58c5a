import GeoLayers.Catalog.Json
import GeoLayers.Query.Assemble
import GeoLayers.Query.Page

/-!
How many rows of a layer lie at each place, whatever their time.
-/

namespace GeoLayers

open Database

/-- The question for the number of rows at each place. -/
def Layer.placesStatement (layer : Layer) : Statement :=
  ⟨"SELECT ST_AsText(ST_Transform(" ++ quoteName layer.geometryField ++ ", " ++
    toString webMercator ++ ")) AS " ++ quoteName geometryColumn ++
    ", COUNT(0) AS \"count\" FROM " ++ quoteName layer.table ++ " GROUP BY 1", []⟩

/-- A place with its number of rows. -/
def placeOfRow (row : Attributes) : Except Error Feature := do
  let geometry ← (geometryIn row).mapError Error.geometry
  pure { attributes := row.erase geometryColumn, geometry }

/-- The places of a layer. -/
def Layer.askPlaces (layer : Layer) : Work (List Feature) := do
  let rows ← loadRows layer.placesStatement
  rows.mapM fun row => placeOfRow row

/-- The column with the number of rows. -/
def countField : Field := { Field.ofColumn "count" "integer" false with editable := false }

/-- Places as JSON. -/
def Layer.placesJson (layer : Layer) (places : List Feature) : Json :=
  .object [("count", .integer places.length), ("fields", Field.listJson [countField]),
    ("geometryType", layer.kind.toJson), ("features", .array (places.map Feature.toJson))]

end GeoLayers
