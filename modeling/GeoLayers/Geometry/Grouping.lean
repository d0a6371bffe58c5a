import GeoLayers.Geometry.Ring

/-!
Polygons out of a flat list of rings. Clockwise rings are shells, the others are holes. A hole goes
to the last shell that contains it; one that no shell contains goes to the last shell that it
meets; and one that meets none is turned round and becomes a shell itself.
-/

namespace GeoLayers

/-- A shell with its holes. -/
structure Polygon (α : Type) where
  shell : Path α
  holes : List (Path α) := []
  deriving DecidableEq, Repr, Inhabited

/-- The rings of a polygon, the shell first. -/
def Polygon.rings {α : Type} (polygon : Polygon α) : List (Path α) :=
  polygon.shell :: polygon.holes

/-- How rings lie to each other, as grouping asks for it. -/
structure Containment (α : Type) where
  contains : (outer inner : Path α) → Bool
  intersects : (a b : Path α) → Bool

/-- Containment by counting crossings. -/
def Containment.crossings {α : Type} [Scalar α] : Containment α := ⟨Ring.contains, Ring.intersects⟩

namespace Polygon

variable {α : Type}

/-- Adds a hole to the last polygon that satisfies a test. -/
def attachToLast (test : Polygon α → Bool) (hole : Path α) :
    List (Polygon α) → Option (List (Polygon α))
  | [] => none
  | polygon :: rest =>
    match attachToLast test hole rest with
    | some rest => some (polygon :: rest)
    | none =>
      if test polygon then some ({ polygon with holes := polygon.holes ++ [hole] } :: rest)
      else none

/-- Gives a hole to the last shell that contains it, or keeps it with the ones left over. -/
def placeInside (how : Containment α) (hole : Path α)
    (state : List (Polygon α) × List (Path α)) : List (Polygon α) × List (Path α) :=
  match attachToLast (fun polygon => how.contains polygon.shell hole) hole state.1 with
  | some polygons => (polygons, state.2)
  | none => (state.1, hole :: state.2)

/-- Gives a hole to the last shell that it meets, or makes it a shell. -/
def placeAcross (how : Containment α) (polygons : List (Polygon α)) (hole : Path α) :
    List (Polygon α) :=
  match attachToLast (fun polygon => how.intersects polygon.shell hole) hole polygons with
  | some polygons => polygons
  | none => polygons ++ [⟨hole.reverse, []⟩]

variable [Scalar α]

/-- The rings of a list, closed, that have at least four points. -/
def properRings (rings : List (Path α)) : List (Path α) :=
  (rings.map Ring.close).filter (4 ≤ ·.length)

/-- The polygons that a list of rings forms. Holes are placed inside shells from the last to the
first, the ones left over from the first to the last. -/
def group (how : Containment α) (rings : List (Path α)) : List (Polygon α) :=
  let proper := properRings rings
  let shells := (proper.filter Ring.isClockwise).map fun ring => ⟨ring, []⟩
  let holes := proper.filter fun ring => !Ring.isClockwise ring
  let placed := holes.foldr (placeInside how) (shells, [])
  placed.2.foldl (placeAcross how) placed.1

end Polygon

end GeoLayers
