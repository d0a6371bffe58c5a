import GeoLayers.Catalog.Basic

/-!
The fields of an answer: what the stars among the fields that are asked for stand for.
-/

namespace GeoLayers

/-- The items of a list, each at its first place only. -/
def firstOccurrences : List String → List String
  | [] => []
  | x :: xs => x :: (firstOccurrences xs).filter (· != x)

/-- What a field that is asked for stands for: the layer's columns for a star, the columns of a
relation for its title with a star, and else itself. -/
def fieldMeaning (catalog : Catalog) (field : String) : List String :=
  if field == "*" then catalog.fields.map (·.name)
  else match Text.stripEnd ".*" field with
    | some title => ((catalog.related? title).map RelatedCatalog.names).getD []
    | none => [field]

/-- Whether a field needs the columns that rows are joined on. -/
def needsKeys (field : String) : Bool := field == "*" || field.toList.contains '.'

/-- The fields that a list of fields stands for, without the geometry. With a star or a related
field among them the object id and the columns that rows are joined on come first. -/
def expandFields (layer : Layer) (catalog : Catalog) (fields : List String) : List String :=
  let keys :=
    if fields.any needsKeys then
      layer.objectIdField :: layer.relations.map (·.sourceColumn)
    else []
  firstOccurrences
    ((keys ++ fields.flatMap (fieldMeaning catalog)).filter (· != layer.geometryField))

end GeoLayers
