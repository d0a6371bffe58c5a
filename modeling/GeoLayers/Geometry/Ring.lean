import GeoLayers.Geometry.Basic

/-!
Rings: closing them, their orientation, and how two of them lie to each other. A ring contains
another if no two of their edges meet and the first point of the other lies inside, which is
decided by counting the edges to the right of the point.
-/

namespace GeoLayers.Ring

variable {α : Type} [Scalar α]

/-- The ring with its first point repeated at the end, unless it is there already. -/
def close (ring : Path α) : Path α :=
  match ring.head?, ring.getLast? with
  | some first, some last => if first.same last then ring else ring ++ [first]
  | _, _ => ring

/-- Twice the area that lies between an edge and the horizontal axis. -/
def edgeArea (edge : Coord α × Coord α) : α :=
  (edge.2.x - edge.1.x) * (edge.2.y + edge.1.y)

/-- Whether a ring goes round clockwise. A ring without area counts as clockwise. -/
def isClockwise (ring : Path α) : Bool :=
  Scalar.le Scalar.zero (Scalar.sum ((edges ring).map edgeArea))

/-- Whether a number lies between zero and one. -/
def isFraction (t : α) : Bool := Scalar.le Scalar.zero t && Scalar.le t Scalar.one

/-- Whether two edges have a point in common. Parallel edges count as having none. -/
def edgesMeet (a b : Coord α × Coord α) : Bool :=
  let ax := a.2.x - a.1.x
  let ay := a.2.y - a.1.y
  let bx := b.2.x - b.1.x
  let by_ := b.2.y - b.1.y
  let ux := a.1.x - b.1.x
  let uy := a.1.y - b.1.y
  let denominator := by_ * ax - bx * ay
  if Scalar.eq denominator Scalar.zero then false
  else isFraction ((bx * uy - by_ * ux) / denominator) &&
    isFraction ((ax * uy - ay * ux) / denominator)

/-- Whether some edges of two rings meet. -/
def intersects (a b : Path α) : Bool :=
  (edges a).any fun ea => (edges b).any fun eb => edgesMeet ea eb

/-- Whether an edge crosses the ray that goes from a point to the right. -/
def crossesRay (point : Coord α) (current previous : Coord α) : Bool :=
  let spans :=
    (Scalar.le current.y point.y && Scalar.lt point.y previous.y) ||
      (Scalar.le previous.y point.y && Scalar.lt point.y current.y)
  spans && Scalar.lt point.x
    ((point.y - current.y) * (previous.x - current.x) / (previous.y - current.y) + current.x)

/-- The parity of the crossings along a path that comes from `previous`. -/
def oddCrossings (point : Coord α) : Coord α → Path α → Bool
  | _, [] => false
  | previous, current :: rest =>
    crossesRay point current previous != oddCrossings point current rest

/-- Whether a point lies inside a ring. -/
def containsPoint (ring : Path α) (point : Coord α) : Bool :=
  match ring.getLast? with
  | none => false
  | some last => oddCrossings point last ring

/-- Whether a ring lies inside another. -/
def contains (outer inner : Path α) : Bool :=
  match inner with
  | [] => false
  | first :: _ => !intersects outer inner && containsPoint outer first

end GeoLayers.Ring
