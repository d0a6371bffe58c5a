import GeoLayers.Classification.Natural
import Mathlib.Algebra.BigOperators.Group.List.Basic
import Mathlib.Algebra.Order.Field.Rat
import Mathlib.Data.Rat.Defs
import Mathlib.Tactic.FieldSimp
import Mathlib.Tactic.Linarith
import Mathlib.Tactic.Positivity
import Mathlib.Tactic.Ring

/-!
The cost of a class: the sum of the squared deviations of its values from their mean. It is never
negative, it is zero exactly for values that are all equal, and it grows with a value that is put to
the class unless that is the mean.
-/

namespace GeoLayers.Classification

/-- The cost of a class of some values. -/
def deviation (values : List ℚ) : ℚ := (values.foldl Spread.add Spread.empty).cost

theorem foldl_add_empty (values : List ℚ) : values.foldl Spread.add Spread.empty =
    ⟨(values.length : ℚ), values.sum, (values.map fun x => x * x).sum⟩ := by
  induction values using List.reverseRecOn with
  | nil => rfl
  | append_singleton values x ih =>
      rw [List.foldl_append, ih]
      simp only [List.foldl_cons, List.foldl_nil, List.length_append, List.length_singleton,
        List.map_append, List.map_cons, List.map_nil, List.sum_append, List.sum_singleton,
        Nat.cast_add, Nat.cast_one]
      rfl

theorem deviation_eq (values : List ℚ) : deviation values =
    (values.map fun x => x * x).sum - values.sum * values.sum / values.length := by
  rw [deviation, foldl_add_empty]
  rfl

theorem deviation_singleton (x : ℚ) : deviation [x] = 0 := by
  rw [deviation_eq]
  simp

/-- A value that is put to a class adds to its cost what it deviates from the mean. -/
theorem deviation_concat {values : List ℚ} (h : values ≠ []) (x : ℚ) :
    deviation (values ++ [x]) = deviation values +
      values.length / (values.length + 1) * (x - values.sum / values.length) ^ 2 := by
  have hlength : (0 : ℚ) < values.length := by
    exact_mod_cast List.length_pos_iff.2 h
  rw [deviation_eq, deviation_eq]
  simp only [List.map_append, List.sum_append, List.length_append, List.map_cons, List.map_nil,
    List.sum_singleton, List.length_singleton, Nat.cast_add, Nat.cast_one]
  field_simp
  ring

theorem deviation_nonneg (values : List ℚ) : 0 ≤ deviation values := by
  induction values using List.reverseRecOn with
  | nil => simp [deviation_eq]
  | append_singleton values x ih =>
      rcases eq_or_ne values [] with rfl | hne
      · exact (deviation_singleton x).ge
      · rw [deviation_concat hne]
        positivity

theorem mean_of_const {values : List ℚ} (hne : values ≠ []) {a : ℚ} (h : ∀ z ∈ values, z = a) :
    values.sum / values.length = a := by
  have hlength : (values.length : ℚ) ≠ 0 := by simpa using hne
  rw [List.sum_eq_card_nsmul values a h, nsmul_eq_mul, mul_div_cancel_left₀ a hlength]

/-- A class costs nothing exactly if all its values are equal. -/
theorem deviation_eq_zero_iff {values : List ℚ} :
    deviation values = 0 ↔ ∀ x ∈ values, ∀ y ∈ values, x = y := by
  induction values using List.reverseRecOn with
  | nil => simp [deviation_eq]
  | append_singleton values x ih =>
      rcases eq_or_ne values [] with rfl | hne
      · simp [deviation_singleton]
      have hlength : (0 : ℚ) < values.length := by exact_mod_cast List.length_pos_iff.2 hne
      have hsplit : deviation (values ++ [x]) = 0 ↔
          deviation values = 0 ∧ x = values.sum / values.length := by
        have hterm : 0 ≤ (values.length : ℚ) / (values.length + 1) *
            (x - values.sum / values.length) ^ 2 := by positivity
        rw [deviation_concat hne, add_eq_zero_iff_of_nonneg (deviation_nonneg values) hterm,
          mul_eq_zero, or_iff_right (by positivity), sq_eq_zero_iff, sub_eq_zero]
      obtain ⟨a, ha⟩ := List.exists_mem_of_ne_nil values hne
      rw [hsplit, ih]
      constructor
      · rintro ⟨hall, hx⟩
        have hconst : ∀ z ∈ values ++ [x], z = a := by
          intro z hz
          rcases List.mem_append.1 hz with hz | hz
          · exact hall z hz a ha
          · rw [List.mem_singleton.1 hz, hx, mean_of_const hne fun z hz => hall z hz a ha]
        exact fun z hz w hw => (hconst z hz).trans (hconst w hw).symm
      · intro hall
        have hvalues : ∀ z ∈ values, z = a := fun z hz =>
          hall z (List.mem_append_left _ hz) a (List.mem_append_left _ ha)
        refine ⟨fun z hz w hw => (hvalues z hz).trans (hvalues w hw).symm, ?_⟩
        rw [mean_of_const hne hvalues]
        exact hall x (by simp) a (List.mem_append_left _ ha)

/-- A class whose first value is known costs nothing exactly if all others equal that. -/
theorem deviation_cons_eq_zero_iff {values : List ℚ} {a : ℚ} :
    deviation (a :: values) = 0 ↔ ∀ x ∈ values, x = a := by
  rw [deviation_eq_zero_iff]
  constructor
  · exact fun h x hx => h x (List.mem_cons_of_mem _ hx) a List.mem_cons_self
  · intro h
    have hall : ∀ x ∈ a :: values, x = a := List.forall_mem_cons.2 ⟨rfl, h⟩
    exact fun x hx y hy => (hall x hx).trans (hall y hy).symm

/-- A value below the others makes a class cost more, unless they are all equal to it. -/
theorem deviation_lt_concat {values : List ℚ} {x y : ℚ} (hle : ∀ z ∈ values, x ≤ z)
    (hmem : y ∈ values) (hlt : x < y) : deviation values < deviation (values ++ [x]) := by
  have hne : values ≠ [] := List.ne_nil_of_mem hmem
  have hlength : (0 : ℚ) < values.length := by exact_mod_cast List.length_pos_iff.2 hne
  have hsum : values.length * x < values.sum := by
    have hbelow := List.sum_lt_sum (l := values) (fun _ => x) id hle ⟨y, hmem, hlt⟩
    simpa using hbelow
  have hmean : x - values.sum / values.length < 0 := by
    rw [sub_neg, lt_div_iff₀ hlength, mul_comm]
    exact hsum
  rw [deviation_concat hne]
  have hsquare := pow_pos (neg_pos.2 hmean) 2
  rw [neg_sq] at hsquare
  exact lt_add_of_pos_right _ (mul_pos (by positivity) hsquare)

end GeoLayers.Classification
