import GeoLayers.Proofs.Geometry.Parity
import Mathlib.Algebra.BigOperators.Group.List.Basic

/-!
The orientation of a ring by the area that it goes round, and what does not depend on it.
-/

namespace GeoLayers.Ring

/-- Twice the area that a ring goes round counterclockwise; what it goes round clockwise counts as
negative. -/
def doubleArea (ring : Path ℚ) : ℚ :=
  ((edges ring).map fun e => e.1.x * e.2.y - e.2.x * e.1.y).sum

/-- A ring goes round clockwise. A ring without area counts as clockwise. -/
def Clockwise (ring : Path ℚ) : Prop := doubleArea ring ≤ 0

theorem sum_edgeArea (a : Coord ℚ) (rest : Path ℚ) :
    ((edges (a :: rest)).map edgeArea).sum =
      ((a :: rest).getLast (List.cons_ne_nil a rest)).x *
          ((a :: rest).getLast (List.cons_ne_nil a rest)).y -
        a.x * a.y - doubleArea (a :: rest) := by
  induction rest generalizing a with
  | nil => simp [edges, doubleArea]
  | cons b rest ih =>
      have hedge : edgeArea (a, b) = (b.x - a.x) * (b.y + a.y) := rfl
      simp only [edges, List.map_cons, List.sum_cons, ih, hedge, doubleArea,
        List.getLast_cons_cons]
      ring

/-- The test of the orientation decides it. -/
theorem isClockwise_iff {ring : Path ℚ} (hclosed : Closed ring) :
    isClockwise ring = true ↔ Clockwise ring := by
  have hsum (xs : List ℚ) : Scalar.sum xs = xs.sum := by
    rw [List.sum_eq_foldl, ← Scalar.zero_rat]
    rfl
  have hle : isClockwise ring = true ↔ 0 ≤ ((edges ring).map edgeArea).sum := by
    rw [← hsum, ← Scalar.zero_rat]
    exact decide_eq_true_iff
  rw [hle, Clockwise]
  cases ring with
  | nil => simp [edges, doubleArea]
  | cons a rest => rw [sum_edgeArea, hclosed.getLast_eq, sub_self, zero_sub, neg_nonneg]

/-- A ring encloses the same points when it is turned round. -/
theorem encloses_reverse {ring : Path ℚ} {p : Coord ℚ} :
    Encloses ring.reverse p ↔ Encloses ring p := by
  have hswap : (fun e => decide (Edge.Crosses e p)) ∘ Prod.swap =
      fun e => decide (Edge.Crosses e p) :=
    funext fun _ => decide_eq_decide.2 Edge.crosses_swap
  rw [Encloses, Encloses, edges_reverse, List.countP_reverse, List.countP_map, hswap]

end GeoLayers.Ring
