import GeoLayers.Geometry.Conversion
import GeoLayers.Layer.Json

/-!
Geometries as JSON. A geometry has no tag: it is a point if it has two coordinates, a polyline if
it has paths, a polygon if it has rings, in this order.
-/

namespace GeoLayers

open Json

def Coord.decode : Decoder (Coord Float)
  | .array [x, y] => do
    let x ← Decoder.float x
    let y ← Decoder.float y
    some ⟨x, y⟩
  | _ => none

def Coord.toJson (c : Coord Float) : Json := .array [.float c.x, .float c.y]

def Path.decode : Decoder (List (Path Float)) := Decoder.list (Decoder.list Coord.decode)

def Path.toJson (paths : List (Path Float)) : Json :=
  .array (paths.map fun path => .array (path.map Coord.toJson))

namespace Geometry

def decodePoint (members : List (String × Json)) : Option (Geometry Float) :=
  match fieldsOfObject ["x", "y", "spatialReference"] members with
  | some [x, y, reference] => do
    let x ← required Decoder.float x
    let y ← required Decoder.float y
    let reference ← optional SpatialReference.decode reference
    some ⟨.point ⟨x, y⟩, reference⟩
  | _ => none

def decodePaths (name : String) (shape : List (Path Float) → Shape Float)
    (members : List (String × Json)) : Option (Geometry Float) :=
  match fieldsOfObject [name, "spatialReference"] members with
  | some [paths, reference] => do
    let paths ← required Path.decode paths
    let reference ← optional SpatialReference.decode reference
    some ⟨shape paths, reference⟩
  | _ => none

/-- Reads a geometry. All numbers in it have to be finite, also those that are passed over. -/
def decode : Decoder (Geometry Float)
  | .object members =>
    if !membersExpressible members then none
    else
      decodePoint members
        <|> decodePaths "paths" .polyline members
        <|> decodePaths "rings" .polygon members
  | _ => none

def toJson (geometry : Geometry Float) : Json :=
  let reference := [("spatialReference", geometry.reference.map SpatialReference.toJson)]
  match geometry.shape with
  | .point c => Json.ofMembers ([("x", some (.float c.x)), ("y", some (.float c.y))] ++ reference)
  | .polyline paths => Json.ofMembers (("paths", some (Path.toJson paths)) :: reference)
  | .polygon rings => Json.ofMembers (("rings", some (Path.toJson rings)) :: reference)

end Geometry

def Envelope.decode : Decoder (Envelope Float) := fun v =>
  match fields? ["xmin", "ymin", "xmax", "ymax"] v with
  | some [xmin, ymin, xmax, ymax] => do
    let xmin ← required Decoder.float xmin
    let ymin ← required Decoder.float ymin
    let xmax ← required Decoder.float xmax
    let ymax ← required Decoder.float ymax
    some ⟨xmin, ymin, xmax, ymax⟩
  | _ => none

end GeoLayers
