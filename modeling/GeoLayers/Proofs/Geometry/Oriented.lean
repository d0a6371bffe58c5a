import GeoLayers.Proofs.Geometry.Closed
import GeoLayers.Proofs.Geometry.Orientation

/-!
How the rings of grouped polygons go round. A ring that goes round counterclockwise goes round
clockwise when it is reversed, and a ring without area counts as clockwise either way, so every shell
is clockwise, every hole is not, and all of them are closed, however containment is decided.
-/

namespace GeoLayers

namespace Ring

/-- A reversed ring goes round the same area the other way. -/
theorem doubleArea_reverse (ring : Path ℚ) : doubleArea ring.reverse = -doubleArea ring := by
  have hedge (e : Edge) : e.2.x * e.1.y - e.1.x * e.2.y = -(e.1.x * e.2.y - e.2.x * e.1.y) := by
    ring
  rw [doubleArea, edges_reverse, List.map_reverse, List.sum_reverse, List.map_map, doubleArea]
  induction edges ring with
  | nil => simp
  | cons e rest ih =>
      rw [List.map_cons, List.sum_cons, ih, List.map_cons, List.sum_cons, neg_add]
      exact congrArg (· + _) (hedge e)

theorem isClockwise_reverse {ring : Path ℚ} (hclosed : Closed ring)
    (h : isClockwise ring = false) : isClockwise ring.reverse = true := by
  have hpositive : 0 < doubleArea ring := by
    rw [← Bool.not_eq_true, isClockwise_iff hclosed, Clockwise] at h
    exact not_le.1 h
  rw [isClockwise_iff hclosed.reverse, Clockwise, doubleArea_reverse]
  linarith

end Ring

namespace Polygon

/-- A ring that may be a hole: closed, with at least four points, and not clockwise. -/
structure IsHole (ring : Path ℚ) : Prop where
  turned : Ring.isClockwise ring = false
  closed : Ring.Closed ring
  long : 4 ≤ ring.length

/-- A polygon with a clockwise shell and holes that are not clockwise, whose rings are all closed
and have at least four points. -/
structure Oriented (polygon : Polygon ℚ) : Prop where
  shell : Ring.isClockwise polygon.shell = true
  holes : ∀ hole ∈ polygon.holes, Ring.isClockwise hole = false
  closed : ∀ ring ∈ polygon.rings, Ring.Closed ring
  long : ∀ ring ∈ polygon.rings, 4 ≤ ring.length

/-- What a polygon keeps when it gets a hole holds of all polygons after one of them got it. -/
theorem forall_attachToLast {α : Type} {holds : Polygon α → Prop} {test : Polygon α → Bool}
    {hole : Path α} {polygons attached : List (Polygon α)}
    (hstep : ∀ polygon, holds polygon → holds { polygon with holes := polygon.holes ++ [hole] })
    (h : attachToLast test hole polygons = some attached)
    (hpolygons : ∀ polygon ∈ polygons, holds polygon) : ∀ polygon ∈ attached, holds polygon := by
  induction polygons generalizing attached with
  | nil => cases h
  | cons polygon rest ih =>
      obtain ⟨hpolygon, hrest⟩ := List.forall_mem_cons.1 hpolygons
      rw [attachToLast] at h
      cases hmore : attachToLast test hole rest with
      | some more =>
          rw [hmore] at h
          obtain rfl := Option.some.inj h
          exact List.forall_mem_cons.2 ⟨hpolygon, ih hmore hrest⟩
      | none =>
          rw [hmore, Option.ite_none_right_eq_some] at h
          obtain ⟨-, h⟩ := h
          obtain rfl := Option.some.inj h
          exact List.forall_mem_cons.2 ⟨hstep polygon hpolygon, hrest⟩

variable {how : Containment ℚ} {hole : Path ℚ} {polygons : List (Polygon ℚ)}

theorem Oriented.attach {polygon : Polygon ℚ} (hhole : IsHole hole) (h : Oriented polygon) :
    Oriented { polygon with holes := polygon.holes ++ [hole] } where
  shell := h.shell
  holes := List.forall_mem_append.2 ⟨h.holes, List.forall_mem_singleton.2 hhole.turned⟩
  closed := by
    rw [rings_attach]
    exact List.forall_mem_append.2 ⟨h.closed, List.forall_mem_singleton.2 hhole.closed⟩
  long := by
    rw [rings_attach]
    exact List.forall_mem_append.2 ⟨h.long, List.forall_mem_singleton.2 hhole.long⟩

/-- A hole that is turned round is a shell. -/
theorem IsHole.oriented_reverse (h : IsHole hole) : Oriented ⟨hole.reverse, []⟩ where
  shell := Ring.isClockwise_reverse h.closed h.turned
  holes := nofun
  closed := List.forall_mem_singleton.2 h.closed.reverse
  long := List.forall_mem_singleton.2 (by rw [List.length_reverse]; exact h.long)

/-- A step inside keeps the polygons oriented, and what is left over are holes. -/
theorem oriented_placeInside (hhole : IsHole hole) {state : List (Polygon ℚ) × List (Path ℚ)}
    (h : (∀ polygon ∈ state.1, Oriented polygon) ∧ ∀ left ∈ state.2, IsHole left) :
    (∀ polygon ∈ (placeInside how hole state).1, Oriented polygon) ∧
      ∀ left ∈ (placeInside how hole state).2, IsHole left := by
  unfold placeInside
  split
  case h_1 attached hattached =>
    exact ⟨forall_attachToLast (fun _ => Oriented.attach hhole) hattached h.1, h.2⟩
  case h_2 => exact ⟨h.1, List.forall_mem_cons.2 ⟨hhole, h.2⟩⟩

theorem oriented_foldr_placeInside (how : Containment ℚ) {holes : List (Path ℚ)}
    (hholes : ∀ hole ∈ holes, IsHole hole) (h : ∀ polygon ∈ polygons, Oriented polygon) :
    (∀ polygon ∈ (holes.foldr (placeInside how) (polygons, [])).1, Oriented polygon) ∧
      ∀ left ∈ (holes.foldr (placeInside how) (polygons, [])).2, IsHole left := by
  induction holes with
  | nil => exact ⟨h, nofun⟩
  | cons hole holes ih =>
      obtain ⟨hhole, hholes⟩ := List.forall_mem_cons.1 hholes
      exact oriented_placeInside hhole (ih hholes)

/-- A step across keeps the polygons oriented. -/
theorem oriented_placeAcross (hhole : IsHole hole) (h : ∀ polygon ∈ polygons, Oriented polygon) :
    ∀ polygon ∈ placeAcross how polygons hole, Oriented polygon := by
  unfold placeAcross
  split
  case h_1 attached hattached =>
    exact forall_attachToLast (fun _ => Oriented.attach hhole) hattached h
  case h_2 =>
    exact List.forall_mem_append.2 ⟨h, List.forall_mem_singleton.2 hhole.oriented_reverse⟩

theorem oriented_foldl_placeAcross {left : List (Path ℚ)} (hleft : ∀ hole ∈ left, IsHole hole)
    (h : ∀ polygon ∈ polygons, Oriented polygon) :
    ∀ polygon ∈ left.foldl (placeAcross how) polygons, Oriented polygon := by
  induction left generalizing polygons with
  | nil => exact h
  | cons hole left ih =>
      obtain ⟨hhole, hleft⟩ := List.forall_mem_cons.1 hleft
      exact ih hleft (oriented_placeAcross hhole h)

theorem proper_of_mem {input : List (Path ℚ)} {ring : Path ℚ} (h : ring ∈ properRings input) :
    Ring.Closed ring ∧ 4 ≤ ring.length := by
  obtain ⟨hmem, hlong⟩ := List.mem_filter.1 h
  obtain ⟨source, -, rfl⟩ := List.mem_map.1 hmem
  exact ⟨Ring.closed_close source, of_decide_eq_true hlong⟩

/-- Grouping gives out oriented polygons, whatever rings it is given and however containment is
decided; a ring is turned round where the orientation asks for it, which makes it clockwise. -/
theorem group_oriented (how : Containment ℚ) (input : List (Path ℚ)) :
    (∀ polygon ∈ group how input, Oriented polygon) ∧
      ∀ ring : Path ℚ, Ring.Closed ring → Ring.isClockwise ring = false →
        Ring.isClockwise ring.reverse = true := by
  have hshells : ∀ polygon ∈ ((properRings input).filter Ring.isClockwise).map
      fun ring => (⟨ring, []⟩ : Polygon ℚ), Oriented polygon := by
    intro polygon hpolygon
    obtain ⟨ring, hring, rfl⟩ := List.mem_map.1 hpolygon
    obtain ⟨hmem, hclockwise⟩ := List.mem_filter.1 hring
    obtain ⟨hclosed, hlong⟩ := proper_of_mem hmem
    exact ⟨hclockwise, nofun, List.forall_mem_singleton.2 hclosed,
      List.forall_mem_singleton.2 hlong⟩
  have hholes : ∀ hole ∈ (properRings input).filter fun ring => !Ring.isClockwise ring,
      IsHole hole := by
    intro hole hhole
    obtain ⟨hmem, hturned⟩ := List.mem_filter.1 hhole
    obtain ⟨hclosed, hlong⟩ := proper_of_mem hmem
    exact ⟨by simpa using hturned, hclosed, hlong⟩
  obtain ⟨hplaced, hleft⟩ := oriented_foldr_placeInside how hholes hshells
  exact ⟨oriented_foldl_placeAcross hleft hplaced, fun _ => Ring.isClockwise_reverse⟩

end Polygon

end GeoLayers
