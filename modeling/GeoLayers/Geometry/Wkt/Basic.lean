import GeoLayers.Geometry.Grouping

/-!
Well-known text: geometries as a database writes them. `Wkt.render` prints them in two dimensions,
without blanks but between the two numbers of a point.
-/

namespace GeoLayers

/-- A geometry in well-known text. A point that is empty is read as no points. -/
inductive Wkt (α : Type) where
  | point (at_ : Coord α)
  | multiPoint (points : List (Coord α))
  | lineString (path : Path α)
  | multiLineString (paths : List (Path α))
  | polygon (polygon : Polygon α)
  | multiPolygon (polygons : List (Polygon α))
  | collection (members : List (Wkt α))
  deriving Repr, Inhabited

namespace Wkt

variable {α : Type} [Numeric α]

def coordText (c : Coord α) : String := Numeric.text c.x ++ " " ++ Numeric.text c.y

/-- Items between round brackets, with commas between them. -/
def bracketed (items : List String) : String := "(" ++ ",".intercalate items ++ ")"

/-- Items after a name; none are written as a word. -/
def named (name : String) (items : List String) : String :=
  if items.isEmpty then name ++ " EMPTY" else name ++ bracketed items

def pathText (path : Path α) : String := bracketed (path.map coordText)

def polygonText (polygon : Polygon α) : String := bracketed (polygon.rings.map pathText)

mutual

/-- The text of a geometry. -/
def render : Wkt α → String
  | .point c => "POINT(" ++ coordText c ++ ")"
  | .multiPoint points => named "MULTIPOINT" (points.map fun c => "(" ++ coordText c ++ ")")
  | .lineString path => named "LINESTRING" (path.map coordText)
  | .multiLineString paths => named "MULTILINESTRING" (paths.map pathText)
  | .polygon area =>
    if area.shell.isEmpty then "POLYGON EMPTY" else "POLYGON" ++ polygonText area
  | .multiPolygon polygons => named "MULTIPOLYGON" (polygons.map polygonText)
  | .collection members => named "GEOMETRYCOLLECTION" (renderAll members)

def renderAll : List (Wkt α) → List String
  | [] => []
  | g :: gs => render g :: renderAll gs

end

end Wkt

end GeoLayers
