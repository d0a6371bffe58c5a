import GeoLayers.Geometry.Json

/-!
Features: attributes, perhaps a geometry, and the related rows under the titles of their relations.
-/

namespace GeoLayers

structure Feature where
  attributes : Attributes := .empty
  geometry : Option (Geometry Float) := none
  related : Dictionary (List Attributes) := .empty
  deriving Inhabited

namespace Feature

open Json

def decode : Decoder Feature := fun v =>
  match fields? ["attributes", "geometry", "related"] v with
  | some [attributes, geometry, related] => do
    let attributes ← orElse Decoder.attributes .empty attributes
    let geometry ← optional Geometry.decode geometry
    let related ← orElse (Decoder.dictionary (Decoder.list Decoder.attributes)) .empty related
    some { attributes, geometry, related }
  | _ => none

def relatedJson (related : Dictionary (List Attributes)) : Json :=
  .object (related.entries.map fun (title, rows) => (title, .array (rows.map (·.toJson))))

/-- A feature as JSON. A geometry that is missing and an empty map of related rows are left
out. -/
def toJson (feature : Feature) : Json :=
  Json.ofMembers
    [("attributes", some feature.attributes.toJson),
      ("geometry", feature.geometry.map Geometry.toJson),
      ("related",
        if feature.related.isEmpty then none else some (relatedJson feature.related))]

end Feature

end GeoLayers
