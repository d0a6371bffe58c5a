import GeoLayers.Layer.Basic
import GeoLayers.Number.Scalar

/-!
Points, paths and rings in the plane, and the geometries that features have.
-/

namespace GeoLayers

/-- A point of the plane. -/
structure Coord (α : Type) where
  x : α
  y : α
  deriving DecidableEq, Repr, Inhabited

/-- A sequence of points. In a polygon it is a ring, whose last point repeats the first. -/
abbrev Path (α : Type) := List (Coord α)

/-- The points that a feature consists of. A polygon is a flat list of rings, shells and holes. -/
inductive Shape (α : Type) where
  | point (at_ : Coord α)
  | polyline (paths : List (Path α))
  | polygon (rings : List (Path α))
  deriving DecidableEq, Repr, Inhabited

/-- The geometry of a feature: its shape, and the reference system if it is given. -/
structure Geometry (α : Type) where
  shape : Shape α
  reference : Option SpatialReference := none
  deriving DecidableEq, Repr, Inhabited

/-- The kind of a shape. -/
def Shape.kind {α : Type} : Shape α → GeometryKind
  | .point _ => .point
  | .polyline _ => .polyline
  | .polygon _ => .polygon

/-- Whether two points are equal. -/
def Coord.same {α : Type} [Scalar α] (a b : Coord α) : Bool :=
  Scalar.eq a.x b.x && Scalar.eq a.y b.y

/-- The edges of a path: each point with the next one. -/
def edges {α : Type} : Path α → List (Coord α × Coord α)
  | a :: b :: rest => (a, b) :: edges (b :: rest)
  | _ => []

end GeoLayers
