import GeoLayers.Error
import GeoLayers.Geometry.Wkt.Reader

/-!
Features' geometries from and to well-known text. Lines and polygons are always written in their
multiple forms; the reference system stands in front of the text.
-/

namespace GeoLayers

variable {α : Type} [Scalar α] [Numeric α]

/-- The shape that a text is. The text is named in the fault as it was given. -/
def Shape.ofText (text : String) : Except GeometryFault (Shape α) :=
  match Wkt.read? (Text.trim text) with
  | none => .error (.unreadable text)
  | some (.point c) => .ok (.point c)
  | some (.multiPoint [c]) => .ok (.point c)
  | some (.multiPoint _) => .error (.notOnePoint text)
  | some (.lineString path) => .ok (.polyline [path])
  | some (.multiLineString paths) => .ok (.polyline paths)
  | some (.polygon area) => .ok (.polygon area.rings)
  | some (.multiPolygon polygons) => .ok (.polygon (polygons.flatMap Polygon.rings))
  | some (.collection members) => .error (.unsupported (Wkt.render (.collection members)))

/-- The text of a shape. Polygons are grouped out of the rings. -/
def Shape.toText (how : Containment α) : Shape α → Except GeometryFault String
  | .point c => .ok (Wkt.render (.point c))
  | .polyline paths =>
    if paths.any (·.length < 2) then .error .shortPath
    else .ok (Wkt.render (.multiLineString paths))
  | .polygon rings =>
    match Polygon.group how rings with
    | [] => .error .noRing
    | polygons => .ok (Wkt.render (.multiPolygon polygons))

/-- The number of the reference system of a geometry. -/
def Geometry.wkid {α : Type} (geometry : Geometry α) : Int :=
  (geometry.reference.getD {}).wkid

/-- The text of a geometry of an expected kind, with its reference system in front. -/
def Geometry.toText (how : Containment α) (expected : GeometryKind) (geometry : Geometry α) :
    Except GeometryFault String :=
  if geometry.shape.kind ≠ expected then .error (.otherKind expected geometry.shape.kind)
  else do
    let body ← geometry.shape.toText how
    pure ("SRID=" ++ toString geometry.wkid ++ ";" ++ body)

/-- A rectangle along the axes. -/
structure Envelope (α : Type) where
  xmin : α
  ymin : α
  xmax : α
  ymax : α
  deriving Repr, Inhabited

/-- The text of a rectangle as a polygon. -/
def Envelope.toText (e : Envelope α) : String :=
  let corners := [(e.xmin, e.ymin), (e.xmax, e.ymin), (e.xmax, e.ymax), (e.xmin, e.ymax),
    (e.xmin, e.ymin)]
  "POLYGON((" ++ ", ".intercalate (corners.map fun (x, y) => Wkt.coordText ⟨x, y⟩) ++ "))"

end GeoLayers
