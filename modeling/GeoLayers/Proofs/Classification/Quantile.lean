import GeoLayers.Classification.Breaks
import Mathlib.Algebra.Order.Field.Rat
import Mathlib.Data.List.Basic
import Mathlib.Data.List.GetD

/-!
Breaks between classes of about the same size. The ranks at which the classes begin cut the values
into parts of which none has more than one value more than another, whether or not the number of
classes divides the number of values, and the breaks are the values at these ranks.
-/

namespace GeoLayers.Classification

/-- The parts that the ranks `rank 0`, …, `rank k` cut some values into. -/
def partsAt {α : Type} (values : List α) (rank : Nat → Nat) (k : Nat) : List (List α) :=
  (List.range k).map fun i => (values.take (rank (i + 1))).drop (rank i)

/-- Breaks that cut `n` values into `k` classes of about the same size. The classes begin at the ranks
`i * n / k`; the breaks are the values there, and the greatest value after them. -/
structure Quantiles {α : Type} (le : α → α → Prop) (values breaks : List α) (n k : Nat) : Prop where
  length_eq : breaks.length = k + 1
  least : ∃ low, breaks.head? = some low ∧ low ∈ values ∧ ∀ v ∈ values, le low v
  greatest : ∃ high, breaks.getLast? = some high ∧ high ∈ values ∧ ∀ v ∈ values, le v high
  /-- The other breaks are the values at the ranks between the first and the last one. -/
  inner : ∀ i, 1 ≤ i → i < k → i * n / k < n ∧ breaks[i]? = values[i * n / k]?
  /-- No two classes begin at one rank, and none begins at the end. -/
  increasing : ∀ i j, i < j → j ≤ k → i * n / k < j * n / k
  ordered : breaks.Pairwise le
  /-- Every value is in exactly one class. -/
  flatten_parts : (partsAt values (fun i => i * n / k) k).flatten = values
  /-- A class has as many values as there are for each class, rounded down or up. -/
  length_part : ∀ part ∈ partsAt values (fun i => i * n / k) k,
    part.length = n / k ∨ part.length = (n + k - 1) / k

/-! ### Ranks -/

section Ranks

variable {n k i j : Nat}

theorem rank_lt_rank (hk : 0 < k) (hle : k ≤ n) (hij : i < j) : i * n / k < j * n / k := by
  have hnext : i * n + k ≤ j * n := by
    calc i * n + k ≤ i * n + n := Nat.add_le_add_left hle _
      _ = (i + 1) * n := by rw [Nat.add_one_mul]
      _ ≤ j * n := Nat.mul_le_mul_right n hij
  calc i * n / k < (i * n + k) / k := by
        rw [Nat.add_div_right _ hk]
        exact Nat.lt_succ_self _
    _ ≤ j * n / k := Nat.div_le_div_right hnext

theorem rank_last (hk : 0 < k) : k * n / k = n := Nat.mul_div_cancel_left n hk

theorem rank_lt (hk : 0 < k) (hle : k ≤ n) (hi : i < k) : i * n / k < n := by
  have hlt := rank_lt_rank hk hle hi
  rwa [rank_last hk] at hlt

/-- Between two ranks that follow on one another lie as many values as there are for each class,
rounded down or up. -/
theorem rank_succ_sub (hk : 0 < k) (i : Nat) :
    (i + 1) * n / k - i * n / k = n / k ∨ (i + 1) * n / k - i * n / k = (n + k - 1) / k := by
  rw [Nat.add_one_mul, Nat.add_div hk, Nat.add_assoc, Nat.add_sub_cancel_left]
  split
  case isFalse => exact .inl (Nat.add_zero _)
  case isTrue hcarry =>
    -- a carry needs a remainder, so rounding up takes one more
    have hremainder : 0 < n % k := by
      have hlt := Nat.mod_lt (i * n) hk
      omega
    have hparts := Nat.div_add_mod n k
    have hmod := Nat.mod_lt n hk
    right
    symm
    rw [Nat.div_eq_iff hk, Nat.add_one_mul, Nat.mul_comm (n / k) k]
    omega

end Ranks

/-! ### Parts -/

variable {α : Type} {values : List α} {rank : Nat → Nat}

theorem flatten_partsAt (hfirst : rank 0 = 0) (hrank : ∀ i, rank i ≤ rank (i + 1)) (k : Nat) :
    (partsAt values rank k).flatten = values.take (rank k) := by
  induction k with
  | zero => rw [hfirst, List.take_zero, partsAt, List.range_zero, List.map_nil, List.flatten_nil]
  | succ k ih =>
      have hstart : values.take (rank k) = (values.take (rank (k + 1))).take (rank k) := by
        rw [List.take_take, Nat.min_eq_left (hrank k)]
      rw [partsAt, List.range_succ, List.map_append, List.flatten_append, ← partsAt, ih, hstart]
      simp only [List.map_cons, List.map_nil, List.flatten_cons, List.flatten_nil, List.append_nil]
      exact List.take_append_drop _ _

theorem length_of_mem_partsAt {part : List α} {k : Nat} (h : part ∈ partsAt values rank k)
    (hrank : ∀ i < k, rank (i + 1) ≤ values.length) :
    ∃ i < k, part.length = rank (i + 1) - rank i := by
  obtain ⟨i, hi, rfl⟩ := List.mem_map.1 h
  have hi := List.mem_range.1 hi
  refine ⟨i, hi, ?_⟩
  rw [List.length_drop, List.length_take, Nat.min_eq_left (hrank i hi)]

/-! ### Breaks -/

variable {le : α → α → Prop}

/-- Ascending values at ranks of which none is before the other. -/
theorem le_at_ranks (hrefl : ∀ v ∈ values, le v v) (hsorted : values.Pairwise le) {i j : Nat}
    (hij : i ≤ j) (hj : j < values.length) : le (values[i]) (values[j]) := by
  rcases Nat.lt_or_eq_of_le hij with hlt | rfl
  · exact List.pairwise_iff_getElem.1 hsorted i j (by omega) hj hlt
  · exact hrefl _ (List.getElem_mem hj)

/-- The first of ascending values is the least of them. -/
theorem le_of_head (hne : values ≠ []) (hrefl : ∀ v ∈ values, le v v)
    (hsorted : values.Pairwise le) : ∀ v ∈ values, le (values.head hne) v := by
  intro v hv
  obtain ⟨i, hi, rfl⟩ := List.mem_iff_getElem.1 hv
  rw [List.head_eq_getElem]
  exact le_at_ranks hrefl hsorted (Nat.zero_le i) hi

/-- The last of ascending values is the greatest of them. -/
theorem le_of_getLast (hne : values ≠ []) (hrefl : ∀ v ∈ values, le v v)
    (hsorted : values.Pairwise le) : ∀ v ∈ values, le v (values.getLast hne) := by
  intro v hv
  obtain ⟨i, hi, rfl⟩ := List.mem_iff_getElem.1 hv
  rw [List.getLast_eq_getElem]
  exact le_at_ranks hrefl hsorted (by omega) (by omega)

theorem classCount_pos (hne : values ≠ []) (count : Nat) : 0 < classCount values count := by
  have hpos := List.length_pos_iff.2 hne
  unfold classCount
  omega

theorem classCount_le (values : List α) (count : Nat) :
    classCount values count ≤ values.length := Nat.min_le_right _ _

/-- The breaks are the values at the ranks where the classes begin, and the last value. -/
theorem quantile_eq (hne : values ≠ []) (count : Nat) :
    quantile values count =
      (List.range (classCount values count)).map (fun i =>
          values.getD (i * values.length / classCount values count) (values.head hne)) ++
        [values.getLast hne] := by
  obtain ⟨k, hk⟩ := Nat.exists_eq_add_of_lt (classCount_pos hne count)
  rw [Nat.zero_add] at hk
  have hle : k + 1 ≤ values.length := hk ▸ classCount_le values count
  have hfirst : values.getD 0 (values.head hne) = values.head hne := by
    rw [List.getD_eq_getElem _ _ (List.length_pos_iff.2 hne), List.head_eq_getElem]
  -- every rank is that of a value
  have hfound : ∀ rank ∈ quantileRanks values.length (k + 1),
      values[rank]? = some (values.getD rank (values.head hne)) := by
    intro rank hrank
    obtain ⟨i, hi, rfl⟩ := List.mem_map.1 hrank
    have hi : i < k + 1 := by
      have hbound := (List.mem_range'_1.1 hi).2
      omega
    have hlt := rank_lt (Nat.succ_pos k) hle hi
    rw [List.getD_eq_getElem _ _ hlt, List.getElem?_eq_getElem hlt]
  unfold quantile
  rw [List.head?_eq_some_head hne, List.getLast?_eq_some_getLast hne]
  dsimp only
  rw [hk, List.filterMap_eq_map_iff_forall_eq_some.2 hfound, quantileRanks, List.map_map,
    List.range_eq_range', List.range'_succ, List.map_cons, Nat.zero_mul, Nat.zero_div, hfirst]
  rfl

/-- The break where a class begins is the value at its rank. -/
theorem getElem?_quantile (hne : values ≠ []) {count i : Nat} (hi : i < classCount values count) :
    (quantile values count)[i]? = values[i * values.length / classCount values count]? := by
  have hlt := rank_lt (classCount_pos hne count) (classCount_le values count) hi
  rw [quantile_eq hne, List.getElem?_append_left (by simpa using hi), List.getElem?_map,
    List.getElem?_range hi, Option.map_some, List.getD_eq_getElem _ _ hlt, List.getElem?_eq_getElem]

theorem pairwise_quantile (hne : values ≠ []) (hrefl : ∀ v ∈ values, le v v)
    (hsorted : values.Pairwise le) (count : Nat) : (quantile values count).Pairwise le := by
  have hpos := classCount_pos hne count
  have hle := classCount_le values count
  have hat {i : Nat} (hi : i < classCount values count) :
      values.getD (i * values.length / classCount values count) (values.head hne) =
        values.get ⟨i * values.length / classCount values count, rank_lt hpos hle hi⟩ :=
    List.getD_eq_getElem _ _ _
  rw [quantile_eq hne, List.pairwise_append, List.pairwise_map]
  refine ⟨List.pairwise_lt_range.imp_of_mem fun hi hj hij => ?_, List.pairwise_singleton _ _, ?_⟩
  · have hi := List.mem_range.1 hi
    have hj := List.mem_range.1 hj
    rw [hat hi, hat hj]
    exact le_at_ranks hrefl hsorted (rank_lt_rank hpos hle hij).le (rank_lt hpos hle hj)
  · intro b hb high hhigh
    obtain ⟨i, hi, rfl⟩ := List.mem_map.1 hb
    rw [List.mem_singleton.1 hhigh, hat (List.mem_range.1 hi)]
    exact le_of_getLast hne hrefl hsorted _ (List.getElem_mem _)

/-- Breaks between classes of about the same size are at the ranks that cut the values into as many
classes as are asked for, but at least one and at most one for each value. -/
theorem quantile_balanced (hne : values ≠ []) (hrefl : ∀ v ∈ values, le v v)
    (hsorted : values.Pairwise le) (count : Nat) :
    Quantiles le values (quantile values count) values.length
      (min (max count 1) values.length) := by
  have hpos := classCount_pos hne count
  have hle := classCount_le values count
  have hfirst := getElem?_quantile hne hpos
  rw [Nat.zero_mul, Nat.zero_div, ← List.head?_eq_getElem?, ← List.head?_eq_getElem?] at hfirst
  change Quantiles le values (quantile values count) values.length (classCount values count)
  refine {
    length_eq := by simp [quantile_eq hne]
    least := ⟨values.head hne, ?_, List.head_mem hne, le_of_head hne hrefl hsorted⟩
    greatest := ⟨values.getLast hne, ?_, List.getLast_mem hne, le_of_getLast hne hrefl hsorted⟩
    inner := fun i _ hi => ⟨rank_lt hpos hle hi, getElem?_quantile hne hi⟩
    increasing := fun i j hij _ => rank_lt_rank hpos hle hij
    ordered := pairwise_quantile hne hrefl hsorted count
    flatten_parts := ?_
    length_part := ?_ }
  · rw [hfirst, List.head?_eq_some_head hne]
  · rw [quantile_eq hne, List.getLast?_concat]
  · rw [flatten_partsAt (by simp) fun i => (rank_lt_rank hpos hle (Nat.lt_succ_self i)).le,
      rank_last hpos, List.take_length]
  · intro part hpart
    have hbound : ∀ i < classCount values count,
        (i + 1) * values.length / classCount values count ≤ values.length := by
      intro i hi
      calc (i + 1) * values.length / classCount values count
          ≤ classCount values count * values.length / classCount values count :=
            Nat.div_le_div_right (Nat.mul_le_mul_right _ hi)
        _ = values.length := rank_last hpos
    obtain ⟨i, -, hlength⟩ := length_of_mem_partsAt hpart hbound
    rw [hlength]
    exact rank_succ_sub hpos i

/-- Ten numbers in four classes, of two and of three numbers. -/
theorem quantile_balanced_ten_numbers :
    let values : List ℚ := [1, 2, 2, 3, 5, 8, 8, 9, 10, 12]
    Quantiles (· ≤ ·) values (quantile values 4) 10 4 ∧ quantile values 4 = [1, 2, 8, 9, 12] := by
  intro values
  have hsorted : values.Pairwise (· ≤ ·) := by decide +kernel
  exact ⟨quantile_balanced (List.cons_ne_nil _ _) (fun v _ => le_refl v) hsorted 4, by decide +kernel⟩

end GeoLayers.Classification
