import GeoLayers.Proofs.Geometry.Segment
import Mathlib.Algebra.Order.Field.Basic
import Mathlib.Tactic.Tauto

/-!
What a ring encloses, by the even-odd rule, and that the rule does not depend on the point that is
asked for: along a segment that does not meet a closed ring the parity of the crossings stays the
same. So a ring that is apart from another one lies inside it as a whole or not at all, and the test
of one point decides which. To meet is meant by the test, which passes over parallel edges: one that
lies on the line of a segment does no harm, because it crosses the ray of no point of the line.
-/

namespace GeoLayers

namespace Edge

/-- Whether an edge crosses the ray that goes from a point to the right. One of its ends has to be
above the ray and the other one not. -/
def Crosses (e : Edge) (p : Coord ℚ) : Prop :=
  ¬(p.y < e.1.y ↔ p.y < e.2.y) ∧ ∃ x, p.x < x ∧ e.Has ⟨x, p.y⟩

theorem crosses_swap {e : Edge} {p : Coord ℚ} : Crosses e.swap p ↔ Crosses e p := by
  simp only [Crosses, has_swap, Prod.fst_swap, Prod.snd_swap, iff_comm]

/-- An edge that goes up has one point at each height. -/
theorem exists_at_height {a b : Coord ℚ} {y : ℚ} (hlow : a.y ≤ y) (hhigh : y < b.y) :
    ∃ x, Has (a, b) ⟨x, y⟩ := by
  have hrise : 0 < b.y - a.y := by linarith
  refine ⟨a.x + (y - a.y) / (b.y - a.y) * (b.x - a.x), (y - a.y) / (b.y - a.y), ?_, ?_, ?_⟩
  · exact div_nonneg (by linarith) hrise.le
  · exact (div_le_one hrise).2 (by linarith)
  · simp only [along, Coord.mk.injEq, true_and]
    field_simp
    ring

theorem eq_of_same_height {a b : Coord ℚ} {x x' y : ℚ} (hrise : a.y < b.y)
    (h : Has (a, b) ⟨x, y⟩) (h' : Has (a, b) ⟨x', y⟩) : x = x' := by
  obtain ⟨t, -, -, heq⟩ := h
  obtain ⟨t', -, -, heq'⟩ := h'
  simp only [along, Coord.mk.injEq] at heq heq'
  obtain ⟨hx, hy⟩ := heq
  obtain ⟨hx', hy'⟩ := heq'
  have hsame : (t - t') * (b.y - a.y) = 0 := by linarith
  have ht : t = t' := by
    rcases mul_eq_zero.1 hsame with ht | hflat
    · linarith
    · linarith
  rw [hx, hx', ht]

/-- An edge that goes up crosses a ray exactly if it passes its height to the right of its start. -/
theorem crosses_iff {a b p : Coord ℚ} {x : ℚ} (hlow : a.y ≤ p.y) (hhigh : p.y < b.y)
    (hx : Has (a, b) ⟨x, p.y⟩) : Crosses (a, b) p ↔ p.x < x := by
  constructor
  · rintro ⟨-, x', hright, hx'⟩
    rwa [eq_of_same_height (lt_of_le_of_lt hlow hhigh) hx hx']
  · exact fun hright => ⟨by simp [hhigh, hlow], x, hright, hx⟩

theorem not_crosses_of_le {a b p : Coord ℚ} (ha : a.y ≤ p.y) (hb : b.y ≤ p.y) :
    ¬Crosses (a, b) p := by
  rintro ⟨hspans, -⟩
  exact hspans (iff_of_false (not_lt.2 ha) (not_lt.2 hb))

theorem not_crosses_of_lt {a b p : Coord ℚ} (ha : p.y < a.y) (hb : p.y < b.y) :
    ¬Crosses (a, b) p := by
  rintro ⟨hspans, -⟩
  exact hspans (iff_of_true ha hb)

end Edge

/-- On which side of the line through two points a third one lies: positive on the right, when the
line goes up. -/
def side (p q c : Coord ℚ) : ℚ := (c.x - p.x) * (q.y - p.y) - (c.y - p.y) * (q.x - p.x)

/-- Whether a point lies right of a segment that goes up, at a height that the segment has. -/
def RightOf (p q c : Coord ℚ) : Prop := p.y < c.y ∧ c.y ≤ q.y ∧ 0 < side p q c

namespace Edge

variable {a b p q : Coord ℚ}

/-- A point on the line through two others, between them in height, is on their segment. -/
theorem has_of_side {c : Coord ℚ} (hrise : p.y < q.y) (hlow : p.y ≤ c.y) (hhigh : c.y ≤ q.y)
    (hside : side p q c = 0) : Has (p, q) c := by
  have hpos : 0 < q.y - p.y := by linarith
  refine ⟨(c.y - p.y) / (q.y - p.y), div_nonneg (by linarith) hpos.le,
    (div_le_one hpos).2 (by linarith), ?_⟩
  obtain ⟨cx, cy⟩ := c
  simp only [side] at hside
  simp only [along, Coord.mk.injEq]
  constructor
  · field_simp
    linarith
  · field_simp
    ring

/-- An edge that does not meet a segment stays on one side of it, between the heights of its
ends. -/
theorem side_pos_of_pos {e : Edge} {u v : Coord ℚ} (hrise : p.y < q.y)
    (hmeet : ∀ c, Has e c → ¬Has (p, q) c) (hu : Has e u) (hv : Has e v)
    (hulow : p.y ≤ u.y) (huhigh : u.y ≤ q.y) (hvlow : p.y ≤ v.y) (hvhigh : v.y ≤ q.y)
    (h : 0 < side p q u) : 0 < side p q v := by
  by_contra hnot
  have hpos : 0 < side p q u - side p q v := by linarith
  -- the point of the edge where the side changes
  let t := side p q u / (side p q u - side p q v)
  have ht0 : 0 ≤ t := div_nonneg h.le hpos.le
  have ht1 : t ≤ 1 := (div_le_one hpos).2 (by linarith)
  have hc : Has (u, v) (along (u, v) t) := ⟨t, ht0, ht1, rfl⟩
  have hy : (along (u, v) t).y = (1 - t) * u.y + t * v.y := by
    simp only [along]
    ring
  have hside : side p q (along (u, v) t) = (1 - t) * side p q u + t * side p q v := by
    simp only [side, along]
    ring
  have hzero : side p q (along (u, v) t) = 0 := by
    have hcancel : t * (side p q u - side p q v) = side p q u := div_mul_cancel₀ _ hpos.ne'
    linarith
  refine hmeet _ (hu.between hv hc) (has_of_side hrise ?_ ?_ hzero)
  · have hfirst := mul_le_mul_of_nonneg_left hulow (sub_nonneg.2 ht1)
    have hsecond := mul_le_mul_of_nonneg_left hvlow ht0
    linarith
  · have hfirst := mul_le_mul_of_nonneg_left huhigh (sub_nonneg.2 ht1)
    have hsecond := mul_le_mul_of_nonneg_left hvhigh ht0
    linarith

/-- Where an edge comes into the heights of a segment, from below or at its start, it has a point
that tells whether it crosses the lower ray or starts on the right. -/
theorem exists_entry (hrise : p.y < q.y) (hlow : a.y ≤ q.y) (hhigh : p.y < b.y) :
    ∃ u, Has (a, b) u ∧ p.y ≤ u.y ∧ u.y ≤ q.y ∧
      ((Crosses (a, b) p ↔ ¬RightOf p q a) ↔ 0 < side p q u) := by
  rcases lt_or_ge p.y a.y with habove | hbelow
  · refine ⟨a, has_start a b, habove.le, hlow, ?_⟩
    simp [not_crosses_of_lt habove hhigh, RightOf, habove, hlow]
  · obtain ⟨x, hx⟩ := exists_at_height hbelow hhigh
    refine ⟨⟨x, p.y⟩, hx, le_refl _, hrise.le, ?_⟩
    have hright : ¬RightOf p q a := fun h => absurd h.1 (not_lt.2 hbelow)
    have hside : side p q ⟨x, p.y⟩ = (x - p.x) * (q.y - p.y) := by
      simp only [side]
      ring
    rw [crosses_iff hbelow hhigh hx, hside, mul_pos_iff_of_pos_right (sub_pos.2 hrise), sub_pos]
    simp [hright]

/-- Where an edge leaves the heights of a segment, upwards or at its end, it has a point that tells
whether it crosses the upper ray or ends on the right. -/
theorem exists_exit (hrise : p.y < q.y) (hlow : a.y ≤ q.y) (hhigh : p.y < b.y) :
    ∃ v, Has (a, b) v ∧ p.y ≤ v.y ∧ v.y ≤ q.y ∧
      ((Crosses (a, b) q ↔ ¬RightOf p q b) ↔ 0 < side p q v) := by
  rcases lt_or_ge q.y b.y with habove | hbelow
  · obtain ⟨x, hx⟩ := exists_at_height hlow habove
    refine ⟨⟨x, q.y⟩, hx, hrise.le, le_refl _, ?_⟩
    have hright : ¬RightOf p q b := fun h => absurd h.2.1 (not_le.2 habove)
    have hside : side p q ⟨x, q.y⟩ = (x - q.x) * (q.y - p.y) := by
      simp only [side]
      ring
    rw [crosses_iff hlow habove hx, hside, mul_pos_iff_of_pos_right (sub_pos.2 hrise), sub_pos]
    simp [hright]
  · refine ⟨b, has_end a b, hhigh.le, hbelow, ?_⟩
    simp [not_crosses_of_le hlow hbelow, RightOf, hhigh, hbelow]

/-- A horizontal edge through the point where another edge passes has the point. -/
theorem has_of_level {x y : ℚ} (hp : p.y = y) (hq : q.y = y)
    (h : p.x < x ∧ x ≤ q.x ∨ q.x < x ∧ x ≤ p.x) : Has (p, q) ⟨x, y⟩ := by
  have hne : q.x - p.x ≠ 0 := by
    rcases h with ⟨hlow, hhigh⟩ | ⟨hlow, hhigh⟩
    · exact (by linarith : 0 < q.x - p.x).ne'
    · exact (by linarith : q.x - p.x < 0).ne
  refine ⟨(x - p.x) / (q.x - p.x), ?_, ?_, ?_⟩
  · rcases h with ⟨hlow, hhigh⟩ | ⟨hlow, hhigh⟩
    · exact div_nonneg (by linarith) (by linarith)
    · exact div_nonneg_of_nonpos (by linarith) (by linarith)
  · rcases h with ⟨hlow, hhigh⟩ | ⟨hlow, hhigh⟩
    · exact (div_le_one (by linarith)).2 (by linarith)
    · exact (div_le_one_of_neg (by linarith)).2 (by linarith)
  · simp only [along, Coord.mk.injEq, hp, hq, sub_self, mul_zero, add_zero, and_true]
    field_simp
    ring

/-- An edge that goes up and does not meet a segment crosses the rays of both its ends, or of none,
exactly if it starts and ends on the same side. -/
theorem crosses_iff_rightOf_of_up {a b : Coord ℚ} (hup : a.y ≤ b.y) (hle : p.y ≤ q.y)
    (hmeet : ∀ c, Has (a, b) c → ¬Has (p, q) c) :
    (Crosses (a, b) p ↔ Crosses (a, b) q) ↔ (RightOf p q a ↔ RightOf p q b) := by
  rcases le_or_gt b.y p.y with hunder | hlow
  · -- the edge is below both rays
    have ha : ¬RightOf p q a := fun h => absurd h.1 (not_lt.2 (hup.trans hunder))
    have hb : ¬RightOf p q b := fun h => absurd h.1 (not_lt.2 hunder)
    simp [not_crosses_of_le (hup.trans hunder) hunder,
      not_crosses_of_le (hup.trans (hunder.trans hle)) (hunder.trans hle), ha, hb]
  rcases lt_or_ge q.y a.y with hover | hhigh
  · -- the edge is above both rays
    have ha : ¬RightOf p q a := fun h => absurd h.2.1 (not_le.2 hover)
    have hb : ¬RightOf p q b := fun h => absurd h.2.1 (not_le.2 (hover.trans_le hup))
    simp [not_crosses_of_lt (hle.trans_lt hover) hlow,
      not_crosses_of_lt hover (hover.trans_le hup), ha, hb]
  rcases hle.lt_or_eq with hrise | hlevel
  · obtain ⟨u, hu, hulow, huhigh, hentry⟩ := exists_entry (a := a) (b := b) hrise hhigh hlow
    obtain ⟨v, hv, hvlow, hvhigh, hexit⟩ := exists_exit (a := a) (b := b) hrise hhigh hlow
    have hside : 0 < side p q u ↔ 0 < side p q v :=
      ⟨side_pos_of_pos hrise hmeet hu hv hulow huhigh hvlow hvhigh,
        side_pos_of_pos hrise hmeet hv hu hvlow hvhigh hulow huhigh⟩
    have hcases (A B C D : Prop) (h : (A ↔ ¬B) ↔ (C ↔ ¬D)) : (A ↔ C) ↔ (B ↔ D) := by grind
    exact hcases _ _ _ _ (hentry.trans (hside.trans hexit.symm))
  · -- the rays are at one height, and the edge passes it outside the segment
    obtain ⟨x, hx⟩ := exists_at_height (hhigh.trans hlevel.ge) hlow
    have hcrossq : Crosses (a, b) q ↔ q.x < x :=
      crosses_iff hhigh (hlevel ▸ hlow) (hlevel ▸ hx)
    have hright (c : Coord ℚ) : ¬RightOf p q c := fun h =>
      absurd (h.1.trans_le h.2.1) (not_lt.2 hlevel.ge)
    simp only [crosses_iff (hhigh.trans hlevel.ge) hlow hx, hcrossq, hright, iff_true]
    constructor
    · refine fun hp => by_contra fun hq => hmeet _ hx (has_of_level rfl hlevel.symm ?_)
      exact .inl ⟨hp, not_lt.1 hq⟩
    · refine fun hq => by_contra fun hp => hmeet _ hx (has_of_level rfl hlevel.symm ?_)
      exact .inr ⟨hq, not_lt.1 hp⟩

theorem crosses_iff_rightOf_of_apart {e : Edge} (hle : p.y ≤ q.y)
    (hmeet : ∀ c, Has e c → ¬Has (p, q) c) :
    (Crosses e p ↔ Crosses e q) ↔ (RightOf p q e.1 ↔ RightOf p q e.2) := by
  obtain ⟨a, b⟩ := e
  rcases le_total a.y b.y with hup | hdown
  · exact crosses_iff_rightOf_of_up hup hle hmeet
  · rw [← crosses_swap, ← crosses_swap (p := q), iff_comm (a := RightOf p q _)]
    exact crosses_iff_rightOf_of_up hdown hle fun c hc => hmeet c (has_swap.1 hc)

/-- A parallel edge that has a point of a segment lies on its line. -/
theorem side_eq_zero_of_parallel {e : Edge} (hparallel : Parallel e (p, q)) {c : Coord ℚ}
    (hc : Has e c) (hsegment : Has (p, q) c) : side p q e.1 = 0 ∧ side p q e.2 = 0 := by
  obtain ⟨t, -, -, rfl⟩ := hc
  obtain ⟨r, -, -, heq⟩ := hsegment
  simp only [along, Coord.mk.injEq] at heq
  obtain ⟨hx, hy⟩ := heq
  simp only [Parallel] at hparallel
  simp only [side]
  constructor
  · linear_combination (q.y - p.y) * hx - (q.x - p.x) * hy - t * hparallel
  · linear_combination (q.y - p.y) * hx - (q.x - p.x) * hy + (1 - t) * hparallel

/-- An edge on a line that is not level crosses the ray of no point of the line: it passes the height
of a point in the point itself. -/
theorem not_crosses_of_side {e : Edge} (hrise : p.y < q.y) (hfirst : side p q e.1 = 0)
    (hlast : side p q e.2 = 0) {c : Coord ℚ} (hc : side p q c = 0) : ¬Crosses e c := by
  rintro ⟨-, x, hright, t, -, -, heq⟩
  simp only [along, Coord.mk.injEq] at heq
  obtain ⟨hx, hy⟩ := heq
  simp only [side] at hfirst hlast hc
  have hsame : (x - c.x) * (q.y - p.y) = 0 := by
    linear_combination (q.y - p.y) * hx - (q.x - p.x) * hy + (1 - t) * hfirst + t * hlast - hc
  rcases mul_eq_zero.1 hsame with hzero | hlevel
  · linarith
  · linarith

/-- A parallel edge that has a point of a segment crosses the rays of both its ends or of none. -/
theorem crosses_iff_rightOf_of_parallel {e : Edge} (hle : p.y ≤ q.y)
    (hparallel : Parallel e (p, q)) {c : Coord ℚ} (hc : Has e c) (hsegment : Has (p, q) c) :
    (Crosses e p ↔ Crosses e q) ↔ (RightOf p q e.1 ↔ RightOf p q e.2) := by
  obtain ⟨hfirst, hlast⟩ := side_eq_zero_of_parallel hparallel hc hsegment
  have hright (u : Coord ℚ) (hu : side p q u = 0) : ¬RightOf p q u := fun h => h.2.2.ne' hu
  have hsides : RightOf p q e.1 ↔ RightOf p q e.2 :=
    iff_of_false (hright e.1 hfirst) (hright e.2 hlast)
  refine iff_of_true ?_ hsides
  rcases hle.lt_or_eq with hrise | hlevel
  · have hp : side p q p = 0 := by simp [side]
    have hq : side p q q = 0 := by
      simp only [side]
      ring
    exact iff_of_false (not_crosses_of_side hrise hfirst hlast hp)
      (not_crosses_of_side hrise hfirst hlast hq)
  · -- a level edge crosses no ray, and a segment without length has one end only
    rw [Parallel, hlevel, sub_self, zero_mul, eq_comm, mul_eq_zero, sub_eq_zero, sub_eq_zero]
      at hparallel
    rcases hparallel with hsame | hflat
    · have hends : p = q := by
        obtain ⟨px, py⟩ := p
        obtain ⟨qx, qy⟩ := q
        exact congrArg₂ Coord.mk hsame.symm hlevel
      rw [hends]
    · have hnot (u : Coord ℚ) : ¬Crosses e u := fun h => h.1 (by rw [hflat])
      exact iff_of_false (hnot p) (hnot q)

/-- An edge that does not meet a segment by the test crosses the rays of both its ends, or of none,
exactly if it starts and ends on the same side. -/
theorem crosses_iff_rightOf {e : Edge} (hle : p.y ≤ q.y)
    (hmeet : Ring.edgesMeet e (p, q) = false) :
    (Crosses e p ↔ Crosses e q) ↔ (RightOf p q e.1 ↔ RightOf p q e.2) := by
  by_cases hcommon : ∃ c, Has e c ∧ Has (p, q) c
  · have hparallel : Parallel e (p, q) := by
      by_contra hnot
      exact Bool.false_ne_true (hmeet.symm.trans (Ring.edgesMeet_iff.2 ⟨hnot, hcommon⟩))
    obtain ⟨c, hc, hsegment⟩ := hcommon
    exact crosses_iff_rightOf_of_parallel hle hparallel hc hsegment
  · exact crosses_iff_rightOf_of_apart hle fun c hc hsegment => hcommon ⟨c, hc, hsegment⟩

/-- The edge passes the height of a point where the test of crossings computes it. -/
theorem has_crossing {p current previous : Coord ℚ}
    (h : current.y ≤ p.y ∧ p.y < previous.y ∨ previous.y ≤ p.y ∧ p.y < current.y) :
    Has (current, previous) ⟨(p.y - current.y) * (previous.x - current.x) /
      (previous.y - current.y) + current.x, p.y⟩ := by
  refine ⟨(p.y - current.y) / (previous.y - current.y), ?_, ?_, ?_⟩
  · rcases h with ⟨hlow, hhigh⟩ | ⟨hlow, hhigh⟩
    · exact div_nonneg (by linarith) (by linarith)
    · exact div_nonneg_of_nonpos (by linarith) (by linarith)
  · rcases h with ⟨hlow, hhigh⟩ | ⟨hlow, hhigh⟩
    · exact (div_le_one (by linarith)).2 (by linarith)
    · exact (div_le_one_of_neg (by linarith)).2 (by linarith)
  · have hne : previous.y - current.y ≠ 0 := by
      rcases h with ⟨hlow, hhigh⟩ | ⟨hlow, hhigh⟩
      · exact (by linarith : 0 < previous.y - current.y).ne'
      · exact (by linarith : previous.y - current.y < 0).ne
    simp only [along, Coord.mk.injEq]
    constructor
    · field_simp
      ring
    · field_simp
      ring

/-- The test of crossings decides whether an edge crosses the ray. -/
theorem crossesRay_iff {p current previous : Coord ℚ} :
    Ring.crossesRay p current previous = true ↔ Crosses (previous, current) p := by
  have hray : Ring.crossesRay p current previous = true ↔
      (current.y ≤ p.y ∧ p.y < previous.y ∨ previous.y ≤ p.y ∧ p.y < current.y) ∧
        p.x < (p.y - current.y) * (previous.x - current.x) / (previous.y - current.y) +
          current.x := by
    simp only [Ring.crossesRay, Bool.and_eq_true, Bool.or_eq_true]
    exact and_congr (or_congr (and_congr decide_eq_true_iff decide_eq_true_iff)
      (and_congr decide_eq_true_iff decide_eq_true_iff)) decide_eq_true_iff
  rw [hray]
  constructor
  · rintro ⟨hspans, hright⟩
    have hx := has_crossing hspans
    rcases hspans with ⟨hlow, hhigh⟩ | ⟨hlow, hhigh⟩
    · exact crosses_swap.1 ((crosses_iff hlow hhigh hx).2 hright)
    · exact (crosses_iff hlow hhigh (has_swap.1 hx)).2 hright
  · rintro ⟨hspans, x, hright, hx⟩
    rcases le_or_gt current.y p.y with hlow | hlow
    · have hhigh : p.y < previous.y := by
        refine by_contra fun hnot => hspans (iff_of_false hnot (not_lt.2 hlow))
      have hcrosses : Crosses (current, previous) p := crosses_swap.1 ⟨hspans, x, hright, hx⟩
      exact ⟨.inl ⟨hlow, hhigh⟩,
        (crosses_iff hlow hhigh (has_crossing (.inl ⟨hlow, hhigh⟩))).1 hcrosses⟩
    · have hhigh : previous.y ≤ p.y := by
        refine not_lt.1 fun hnot => hspans (iff_of_true hnot hlow)
      exact ⟨.inr ⟨hhigh, hlow⟩,
        (crosses_iff hhigh hlow (has_swap.1 (has_crossing (.inr ⟨hhigh, hlow⟩)))).1
          ⟨hspans, x, hright, hx⟩⟩

instance (e : Edge) (p : Coord ℚ) : Decidable (Crosses e p) :=
  decidable_of_iff (Ring.crossesRay p e.2 e.1 = true) crossesRay_iff

end Edge

namespace Ring

/-- Whether a ring goes round a point, by the even-odd rule: a ray from the point crosses it an odd
number of times. -/
def Encloses (ring : Path ℚ) (p : Coord ℚ) : Prop :=
  (edges ring).countP (fun e => Edge.Crosses e p) % 2 = 1

/-- The first point of a ring is its last one. -/
def Closed (ring : Path ℚ) : Prop := ring.head? = ring.getLast?

theorem same_parity_iff (m n : Nat) (P Q : Prop) [Decidable P] [Decidable Q] :
    (m + (if P then 1 else 0)) % 2 = (n + (if Q then 1 else 0)) % 2 ↔
      ((P ↔ Q) ↔ m % 2 = n % 2) := by
  by_cases hP : P <;> by_cases hQ : Q <;>
    simp only [hP, hQ, if_true, if_false, true_iff, false_iff, not_true_eq_false] <;> omega

theorem Closed.getLast_eq {a : Coord ℚ} {rest : Path ℚ} (h : Closed (a :: rest)) :
    (a :: rest).getLast (List.cons_ne_nil a rest) = a := by
  rw [Closed, List.getLast?_eq_getLast_of_ne_nil (List.cons_ne_nil a rest)] at h
  exact (Option.some.inj h).symm

/-- Along a path the crossings of the rays of two points differ in parity exactly if the path changes
sides. -/
theorem crossings_iff_rightOf {p q : Coord ℚ} (hle : p.y ≤ q.y) (a : Coord ℚ) (rest : Path ℚ)
    (hmeet : ∀ e ∈ edges (a :: rest), edgesMeet e (p, q) = false) :
    ((edges (a :: rest)).countP (fun e => Edge.Crosses e p) % 2 =
        (edges (a :: rest)).countP (fun e => Edge.Crosses e q) % 2) ↔
      (RightOf p q a ↔ RightOf p q ((a :: rest).getLast (List.cons_ne_nil a rest))) := by
  induction rest generalizing a with
  | nil => exact iff_of_true rfl Iff.rfl
  | cons b rest ih =>
      obtain ⟨hfirst, hrest⟩ := List.forall_mem_cons.1 hmeet
      have hedge := Edge.crosses_iff_rightOf hle hfirst
      have hchain (A B C : Prop) : ((A ↔ B) ↔ (B ↔ C)) ↔ (A ↔ C) := by grind
      simp only [edges, List.countP_cons, decide_eq_true_eq, List.getLast_cons_cons]
      rw [same_parity_iff, hedge, ih b hrest, hchain]

/-- A closed ring that a segment does not meet encloses both of its ends or none. -/
theorem encloses_iff_of_segment {ring : Path ℚ} (hclosed : Closed ring) {p q : Coord ℚ}
    (hmeet : ∀ e ∈ edges ring, edgesMeet e (p, q) = false) : Encloses ring p ↔ Encloses ring q := by
  wlog hle : p.y ≤ q.y generalizing p q
  · exact (this (fun e he => edgesMeet_swap.trans (hmeet e he)) (le_of_not_ge hle)).symm
  cases ring with
  | nil => exact Iff.rfl
  | cons a rest =>
      have hparity := crossings_iff_rightOf hle a rest hmeet
      rw [hclosed.getLast_eq] at hparity
      rw [Encloses, Encloses, hparity.2 Iff.rfl]

/-- A ring lies inside another one: it encloses every point of it. -/
def Inside (outer inner : Path ℚ) : Prop := ∀ c, Has inner c → Encloses outer c

/-- All points of a path that does not meet a closed ring are enclosed by it, or none are. -/
theorem encloses_iff_of_has {outer : Path ℚ} (hclosed : Closed outer) (a : Coord ℚ) (rest : Path ℚ)
    (hmeet : intersects outer (a :: rest) = false) {c : Coord ℚ} (hc : Has (a :: rest) c) :
    Encloses outer c ↔ Encloses outer a := by
  induction rest generalizing a with
  | nil =>
      obtain ⟨e, he, -⟩ := hc
      cases he
  | cons b rest ih =>
      have hedges := intersects_eq_false_iff.1 hmeet
      have hfirst {d : Coord ℚ} (hd : Edge.Has (a, b) d) : Encloses outer d ↔ Encloses outer a :=
        (encloses_iff_of_segment hclosed fun e he =>
          edgesMeet_part (hedges e he (a, b) List.mem_cons_self) hd).symm
      obtain ⟨e, he, hc⟩ := hc
      rcases List.mem_cons.1 he with rfl | he
      · exact hfirst hc
      · have hrest : intersects outer (b :: rest) = false :=
          intersects_eq_false_iff.2 fun eo heo ei hei => hedges eo heo ei (List.mem_cons_of_mem _ hei)
        exact (ih b hrest ⟨e, he, hc⟩).trans (hfirst (Edge.has_end a b))

/-- The test of crossings counts the edges along a path. -/
theorem oddCrossings_eq (p a : Coord ℚ) (rest : Path ℚ) :
    oddCrossings p a rest =
      decide ((edges (a :: rest)).countP (fun e => Edge.Crosses e p) % 2 = 1) := by
  induction rest generalizing a with
  | nil => rfl
  | cons b rest ih =>
      have hcrosses : crossesRay p b a = decide (Edge.Crosses (a, b) p) := by
        rw [Bool.eq_iff_iff, Edge.crossesRay_iff, decide_eq_true_iff]
      rw [oddCrossings, ih, hcrosses, edges, List.countP_cons]
      by_cases h : Edge.Crosses (a, b) p <;>
        rcases Nat.mod_two_eq_zero_or_one
          ((edges (b :: rest)).countP fun e => Edge.Crosses e p) with heven | hodd <;>
        simp [Nat.add_mod, *]

/-- The test of a point decides whether a closed ring encloses it. -/
theorem containsPoint_iff {ring : Path ℚ} (hclosed : Closed ring) {p : Coord ℚ} :
    containsPoint ring p = true ↔ Encloses ring p := by
  cases ring with
  | nil => simp [containsPoint, Encloses, edges]
  | cons a rest =>
      have hlast : (a :: rest).getLast? = some a := hclosed.symm
      have hcrosses : ¬Edge.Crosses (a, a) p := fun h => h.1 Iff.rfl
      simp only [containsPoint, hlast, oddCrossings_eq, edges, List.countP_cons]
      simp [hcrosses, Encloses]

/-- For rings that are apart the test of one point decides whether one lies inside the other. -/
theorem Apart.contains_iff {outer inner : Path ℚ} (h : Apart outer inner) (hclosed : Closed outer)
    (hlength : 2 ≤ inner.length) : contains outer inner = true ↔ Inside outer inner := by
  match inner, hlength with
  | a :: b :: rest, _ =>
    have hhas : Has (a :: b :: rest) a := ⟨(a, b), List.mem_cons_self, Edge.has_start a b⟩
    rw [contains, h.intersects, Bool.not_false, Bool.true_and, containsPoint_iff hclosed]
    constructor
    · exact fun ha c hc => (encloses_iff_of_has hclosed a (b :: rest) h.intersects hc).2 ha
    · exact fun hinside => hinside a hhas

end Ring

end GeoLayers
