import GeoLayers.Proofs.Geometry.Parity
import GeoLayers.Proofs.Geometry.Placement

/-!
Closed rings stay closed: closing a closed ring again changes nothing, a closed ring that is turned
round is closed, and so all rings of the polygons that rings are grouped into are closed. This needs
equality of points to be symmetric, and every point of a ring to be equal to itself. With exact
coordinates both hold, and a ring is closed if its first point is its last one.
-/

namespace GeoLayers

variable {α : Type} [Scalar α]

namespace Ring

/-- A ring is closed if its ends are equal, or if it has none. -/
theorem close_eq_self_iff {ring : Path α} : close ring = ring ↔
    ∀ first last, ring.head? = some first → ring.getLast? = some last → first.same last = true := by
  unfold close
  cases hfirst : ring.head? with
  | none => simp
  | some first =>
      cases hlast : ring.getLast? with
      | none => simp
      | some last => simp

/-- A ring that is not closed gets its first point once more. -/
theorem close_eq_or (ring : Path α) :
    close ring = ring ∨ ∃ first, ring.head? = some first ∧ close ring = ring ++ [first] := by
  unfold close
  split
  case h_1 first last hfirst hlast =>
    split
    case isTrue => exact .inl rfl
    case isFalse => exact .inr ⟨first, hfirst, rfl⟩
  case h_2 => exact .inl rfl

theorem mem_close {ring : Path α} {c : Coord α} : c ∈ close ring ↔ c ∈ ring := by
  rcases close_eq_or ring with heq | ⟨first, hfirst, heq⟩
  · rw [heq]
  · rw [heq, List.mem_append, List.mem_singleton]
    constructor
    · rintro (hmem | rfl)
      · exact hmem
      · exact List.mem_of_mem_head? hfirst
    · exact .inl

/-- Closing a ring makes it closed. -/
theorem close_close {ring : Path α} (hrefl : ∀ c ∈ ring, c.same c = true) :
    close (close ring) = close ring := by
  rcases close_eq_or ring with heq | ⟨first, hfirst, heq⟩
  · rw [heq, heq]
  · rw [heq, close_eq_self_iff]
    intro first' last' hfirst' hlast'
    rw [List.head?_append, hfirst] at hfirst'
    rw [List.getLast?_concat] at hlast'
    obtain rfl : first = first' := Option.some.inj hfirst'
    obtain rfl : first = last' := Option.some.inj hlast'
    exact hrefl first (List.mem_of_mem_head? hfirst)

theorem close_reverse (hsymm : ∀ a b : Coord α, a.same b = b.same a) {ring : Path α}
    (h : close ring = ring) : close ring.reverse = ring.reverse := by
  rw [close_eq_self_iff] at h ⊢
  intro first last hfirst hlast
  rw [List.head?_reverse] at hfirst
  rw [List.getLast?_reverse] at hlast
  rw [hsymm]
  exact h last first hlast hfirst

/-! ### Exact coordinates -/

theorem same_iff {a b : Coord ℚ} : a.same b = true ↔ a = b := by
  obtain ⟨ax, ay⟩ := a
  obtain ⟨bx, by_⟩ := b
  simp [Coord.same, Scalar.eq]

theorem closed_iff {ring : Path ℚ} : Closed ring ↔ close ring = ring := by
  simp only [close_eq_self_iff, Closed, same_iff]
  cases ring with
  | nil => simp
  | cons a rest =>
      rw [List.getLast?_eq_getLast_of_ne_nil (List.cons_ne_nil a rest), List.head?_cons]
      simp

theorem closed_close (ring : Path ℚ) : Closed (close ring) :=
  closed_iff.2 (close_close fun _ _ => same_iff.2 rfl)

theorem Closed.reverse {ring : Path ℚ} (h : Closed ring) : Closed ring.reverse := by
  rw [Closed, List.head?_reverse, List.getLast?_reverse]
  exact h.symm

end Ring

namespace Polygon

variable {how : Containment α} {holds : Path α → Prop}

omit [Scalar α] in
theorem forall_rings_placeAcross (hreverse : ∀ ring, holds ring → holds ring.reverse)
    {polygons : List (Polygon α)} {hole : Path α}
    (hpolygons : ∀ ring ∈ polygons.flatMap rings, holds ring) (hhole : holds hole) :
    ∀ ring ∈ (placeAcross how polygons hole).flatMap rings, holds ring := by
  unfold placeAcross
  split
  case h_1 attached hattached =>
    intro ring hring
    rcases List.mem_cons.1 ((perm_attachToLast hattached).mem_iff.1 hring) with rfl | hmem
    · exact hhole
    · exact hpolygons ring hmem
  case h_2 =>
    intro ring hring
    rw [List.flatMap_append] at hring
    rcases List.mem_append.1 hring with hmem | hturned
    · exact hpolygons ring hmem
    · rw [List.flatMap_singleton, rings, List.mem_singleton] at hturned
      rw [hturned]
      exact hreverse hole hhole

omit [Scalar α] in
theorem forall_rings_foldl_placeAcross (hreverse : ∀ ring, holds ring → holds ring.reverse)
    {polygons : List (Polygon α)} {left : List (Path α)}
    (hpolygons : ∀ ring ∈ polygons.flatMap rings, holds ring) (hleft : ∀ hole ∈ left, holds hole) :
    ∀ ring ∈ (left.foldl (placeAcross how) polygons).flatMap rings, holds ring := by
  induction left generalizing polygons with
  | nil => exact hpolygons
  | cons hole left ih =>
      obtain ⟨hhole, hleft⟩ := List.forall_mem_cons.1 hleft
      exact ih (forall_rings_placeAcross hreverse hpolygons hhole) hleft

/-- What holds of the rings that are grouped, turned round or not, holds of all rings of their
polygons. -/
theorem forall_rings_group (hreverse : ∀ ring, holds ring → holds ring.reverse)
    {input : List (Path α)} (h : ∀ ring ∈ properRings input, holds ring) :
    ∀ ring ∈ (group how input).flatMap rings, holds ring := by
  let shells := clockwiseRings (properRings input)
  let holes := otherRings (properRings input)
  have hplaced := perm_foldr_placeInside how holes (laid shells fun _ => [])
  rw [flatMap_rings_laid_nil_holes, laid_nil_holes] at hplaced
  -- Placing inside only moves rings; what is moved is what is placed across.
  have hmoved : ∀ ring ∈ shells ++ holes, holds ring := by
    intro ring hring
    rcases List.mem_append.1 hring with hmem | hmem
    · exact h ring (List.mem_filter.1 hmem).1
    · exact h ring (List.mem_filter.1 hmem).1
  apply forall_rings_foldl_placeAcross hreverse
  · intro ring hring
    exact hmoved ring (hplaced.mem_iff.1 (List.mem_append_left _ hring))
  · intro hole hhole
    exact hmoved hole (hplaced.mem_iff.1 (List.mem_append_right _ hhole))

/-- What holds of the points of all rings holds of the points of their polygons. -/
theorem forall_coords_group {holds : Coord α → Prop} {input : List (Path α)}
    (h : ∀ ring ∈ input, ∀ c ∈ ring, holds c) :
    ∀ ring ∈ (group how input).flatMap rings, ∀ c ∈ ring, holds c := by
  apply forall_rings_group
  · exact fun ring hring c hc => hring c (List.mem_reverse.1 hc)
  · intro ring hring
    obtain ⟨source, hsource, rfl⟩ := List.mem_map.1 (List.mem_filter.1 hring).1
    exact fun c hc => h source hsource c (Ring.mem_close.1 hc)

theorem length_of_mem_group {input : List (Path α)} :
    ∀ ring ∈ (group how input).flatMap rings, 4 ≤ ring.length := by
  apply forall_rings_group
  · intro ring hring
    rwa [List.length_reverse]
  · exact fun ring hring => of_decide_eq_true (List.mem_filter.1 hring).2

/-- All rings are closed of the polygons that rings are grouped into. -/
theorem close_of_mem_group (hsymm : ∀ a b : Coord α, a.same b = b.same a) {input : List (Path α)}
    (hrefl : ∀ ring ∈ input, ∀ c ∈ ring, c.same c = true) :
    ∀ ring ∈ (group how input).flatMap rings, Ring.close ring = ring := by
  apply forall_rings_group
  · exact fun ring => Ring.close_reverse hsymm
  · intro ring hring
    obtain ⟨source, hsource, rfl⟩ := List.mem_map.1 (List.mem_filter.1 hring).1
    exact Ring.close_close (hrefl source hsource)

end Polygon

end GeoLayers
