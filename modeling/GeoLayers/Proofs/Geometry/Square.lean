import GeoLayers.Proofs.Geometry.Orientation

/-!
Squares along the axes, as examples of rings: what they enclose, and that of two squares around one
middle the smaller one lies inside the larger one.
-/

namespace GeoLayers

/-- An edge from bottom to top crosses a ray exactly if the ray starts left of it, at a height that
it has. -/
theorem Edge.crosses_vertical {x a b : ℚ} {c : Coord ℚ} (hab : a < b) :
    Crosses (⟨x, a⟩, ⟨x, b⟩) c ↔ a ≤ c.y ∧ c.y < b ∧ c.x < x := by
  constructor
  · rintro ⟨hspans, x', hright, t, -, -, heq⟩
    simp only [along, Coord.mk.injEq, sub_self, mul_zero, add_zero] at heq
    rw [← heq.1]
    rcases le_or_gt a c.y with hlow | hlow
    · exact ⟨hlow, by_contra fun hnot => hspans (iff_of_false (not_lt.2 hlow) hnot), hright⟩
    · exact absurd (iff_of_true hlow (hlow.trans hab)) hspans
  · rintro ⟨hlow, hhigh, hleft⟩
    obtain ⟨x', hx'⟩ := exists_at_height (a := ⟨x, a⟩) (b := ⟨x, b⟩) hlow hhigh
    obtain ⟨t, -, -, heq⟩ := id hx'
    simp only [along, Coord.mk.injEq, sub_self, mul_zero, add_zero] at heq
    exact (crosses_iff hlow hhigh hx').2 (heq.1 ▸ hleft)

theorem Edge.not_crosses_level {a b c : Coord ℚ} (hlevel : a.y = b.y) : ¬Crosses (a, b) c :=
  fun h => h.1 (by rw [hlevel])

namespace Ring

/-- The square that goes from one number to another along both axes, clockwise. -/
def square (a b : ℚ) : Path ℚ := [⟨a, a⟩, ⟨a, b⟩, ⟨b, b⟩, ⟨b, a⟩, ⟨a, a⟩]

theorem encloses_square {a b : ℚ} (hab : a < b) {c : Coord ℚ} :
    Encloses (square a b) c ↔ (a ≤ c.x ∧ c.x < b) ∧ a ≤ c.y ∧ c.y < b := by
  have hleft := Edge.crosses_vertical (x := a) (c := c) hab
  have hright : Edge.Crosses (⟨b, b⟩, ⟨b, a⟩) c ↔ a ≤ c.y ∧ c.y < b ∧ c.x < b := by
    rw [← Edge.crosses_swap]
    exact Edge.crosses_vertical hab
  have htop : ¬Edge.Crosses (⟨a, b⟩, ⟨b, b⟩) c := Edge.not_crosses_level rfl
  have hbottom : ¬Edge.Crosses (⟨b, a⟩, ⟨a, a⟩) c := Edge.not_crosses_level rfl
  rw [Encloses, square]
  simp only [edges, List.countP_cons, List.countP_nil, hleft, hright, htop, hbottom,
    decide_eq_true_eq, if_false]
  by_cases hheight : a ≤ c.y ∧ c.y < b
  · rcases lt_or_ge c.x a with hout | hin
    · simp [hheight, hout, hout.trans hab, not_le.2 hout]
    · by_cases hb : c.x < b
      · simp [hheight, hb, not_lt.2 hin, hin]
      · simp [hheight, hb, not_lt.2 hin]
  · have hnot (x : ℚ) : ¬(a ≤ c.y ∧ c.y < b ∧ c.x < x) := fun h => hheight ⟨h.1, h.2.1⟩
    simp [hnot, hheight]

/-- A point of a square is within its bounds and on one of its sides. -/
theorem has_square {a b : ℚ} (hab : a ≤ b) {c : Coord ℚ} (h : Has (square a b) c) :
    (a ≤ c.x ∧ c.x ≤ b) ∧ (a ≤ c.y ∧ c.y ≤ b) ∧ (c.x = a ∨ c.x = b ∨ c.y = a ∨ c.y = b) := by
  obtain ⟨e, he, t, ht0, ht1, rfl⟩ := h
  have hlow : 0 ≤ t * (b - a) := mul_nonneg ht0 (by linarith)
  have hhigh : t * (b - a) ≤ 1 * (b - a) := mul_le_mul_of_nonneg_right ht1 (by linarith)
  simp only [square, edges, List.mem_cons, List.not_mem_nil, or_false] at he
  rcases he with rfl | rfl | rfl | rfl <;> simp only [Edge.along]
  · exact ⟨⟨by linarith, by linarith⟩, ⟨by linarith, by linarith⟩, .inl (by ring)⟩
  · exact ⟨⟨by linarith, by linarith⟩, ⟨by linarith, by linarith⟩, .inr (.inr (.inr (by ring)))⟩
  · exact ⟨⟨by linarith, by linarith⟩, ⟨by linarith, by linarith⟩, .inr (.inl (by ring))⟩
  · exact ⟨⟨by linarith, by linarith⟩, ⟨by linarith, by linarith⟩, .inr (.inr (.inl (by ring)))⟩

variable {a b c d : ℚ}

theorem apart_square (hac : a < c) (hcd : c < d) (hdb : d < b) :
    Apart (square a b) (square c d) := by
  intro p houter hinner
  obtain ⟨-, -, hside⟩ := has_square (by linarith) houter
  obtain ⟨⟨hx, hx'⟩, ⟨hy, hy'⟩, -⟩ := has_square hcd.le hinner
  rcases hside with h | h | h | h <;> linarith

theorem inside_square (hac : a < c) (hcd : c < d) (hdb : d < b) :
    Inside (square a b) (square c d) := by
  intro p hinner
  obtain ⟨⟨hx, hx'⟩, ⟨hy, hy'⟩, -⟩ := has_square hcd.le hinner
  exact (encloses_square (by linarith)).2
    ⟨⟨by linarith, by linarith⟩, by linarith, by linarith⟩

theorem inside_reverse {outer inner : Path ℚ} :
    Inside outer.reverse inner ↔ Inside outer inner := by
  simp only [Inside, encloses_reverse]

theorem inside_reverse_right {outer inner : Path ℚ} :
    Inside outer inner.reverse ↔ Inside outer inner := by
  simp only [Inside, has_reverse]

end Ring

end GeoLayers
