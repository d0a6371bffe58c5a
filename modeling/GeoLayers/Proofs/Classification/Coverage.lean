import GeoLayers.Classification.Renderer
import GeoLayers.Proofs.Classification.Sample
import Mathlib.Data.Rat.Defs
import Mathlib.Algebra.Order.Field.Rat
import Mathlib.Order.Bounds.Basic
import Mathlib.Tactic.Linarith
import Mathlib.Tactic.Positivity
import Mathlib.Tactic.FieldSimp
import Mathlib.Tactic.Ring

/-!
Breaks that cover the values they were made for: from the least to the greatest value in order, so
that the classes between them follow on one another and every value is in one of them. Breaks at
equal distances and breaks between classes of equal size always cover ascending values.
-/

namespace GeoLayers.Classification

/-- Breaks cover values if the classes between them do. -/
structure Covers {α : Type} [LinearOrder α] (values breaks : List α) : Prop where
  two_le : 2 ≤ breaks.length
  ordered : breaks.Pairwise (· ≤ ·)
  least : ∃ low, breaks.head? = some low ∧ IsLeast {v | v ∈ values} low
  greatest : ∃ high, breaks.getLast? = some high ∧ IsGreatest {v | v ∈ values} high
  /-- Every class begins where the one before it ends. -/
  chained : (classRanges breaks).IsChain fun range next => range.high = next.low
  /-- No class ends before it begins. -/
  proper : ∀ range ∈ classRanges breaks, range.low ≤ range.high
  covered : ∀ v ∈ values, ∃ range ∈ classRanges breaks, range.low ≤ v ∧ v ≤ range.high

section Order

variable {α : Type} [LinearOrder α] {values breaks : List α} {low high v : α}

omit [LinearOrder α] in
theorem chained_classRanges (breaks : List α) :
    (classRanges breaks).IsChain fun range next => range.high = next.low := by
  induction breaks with
  | nil => exact .nil
  | cons a rest ih =>
      cases rest with
      | nil => exact .nil
      | cons b rest =>
          cases rest with
          | nil => exact .singleton _
          | cons c rest => exact .cons_cons rfl ih

theorem proper_classRanges (h : breaks.Pairwise (· ≤ ·)) :
    ∀ range ∈ classRanges breaks, range.low ≤ range.high := by
  induction breaks with
  | nil => nofun
  | cons a rest ih =>
      cases rest with
      | nil => nofun
      | cons b rest =>
          rw [List.pairwise_cons] at h
          exact List.forall_mem_cons.2 ⟨h.1 b List.mem_cons_self, ih h.2⟩

/-- What lies between the first and the last break lies in a class. -/
theorem exists_range (hlength : 2 ≤ breaks.length) (hlow : breaks.head? = some low)
    (hhigh : breaks.getLast? = some high) (hfrom : low ≤ v) (hto : v ≤ high) :
    ∃ range ∈ classRanges breaks, range.low ≤ v ∧ v ≤ range.high := by
  induction breaks generalizing low with
  | nil => cases hlow
  | cons a rest ih =>
      obtain rfl := Option.some.inj hlow
      cases rest with
      | nil => simp at hlength
      | cons b rest =>
          rcases le_total v b with hv | hv
          · exact ⟨⟨a, b⟩, List.mem_cons_self, hfrom, hv⟩
          · cases rest with
            | nil =>
                obtain rfl : b = high := by simpa using hhigh
                exact ⟨⟨a, b⟩, List.mem_cons_self, hfrom, hto⟩
            | cons c rest =>
                obtain ⟨range, hmem, hrange⟩ := ih (by simp) rfl (by simpa using hhigh) hv
                exact ⟨range, List.mem_cons_of_mem _ hmem, hrange⟩

theorem isLeast_head (h : values.Pairwise (· ≤ ·)) (hlow : values.head? = some low) :
    IsLeast {v | v ∈ values} low := by
  obtain ⟨rest, rfl⟩ := List.head?_eq_some_iff.1 hlow
  refine ⟨List.mem_cons_self, ?_⟩
  intro v hv
  rcases List.mem_cons.1 hv with rfl | hv
  · exact le_refl v
  · exact (List.pairwise_cons.1 h).1 v hv

theorem isGreatest_getLast (h : values.Pairwise (· ≤ ·)) (hhigh : values.getLast? = some high) :
    IsGreatest {v | v ∈ values} high := by
  obtain ⟨front, rfl⟩ := List.getLast?_eq_some_iff.1 hhigh
  refine ⟨by simp, ?_⟩
  intro v hv
  rcases List.mem_append.1 hv with hv | hv
  · exact (List.pairwise_append.1 h).2.2 v hv high List.mem_cons_self
  · exact (List.mem_singleton.1 hv).le

/-- Breaks in order from the first to the last of ascending values cover them. -/
theorem covers_of_ordered (h : values.Pairwise (· ≤ ·)) (hlow : values.head? = some low)
    (hhigh : values.getLast? = some high) {between : List α}
    (hordered : (low :: between ++ [high]).Pairwise (· ≤ ·)) :
    Covers values (low :: between ++ [high]) := by
  have hleast := isLeast_head h hlow
  have hgreatest := isGreatest_getLast h hhigh
  have hlast : (low :: between ++ [high]).getLast? = some high := List.getLast?_concat
  refine ⟨by simp, hordered, ⟨low, rfl, hleast⟩, ⟨high, hlast, hgreatest⟩,
    chained_classRanges _, proper_classRanges hordered, fun v hv => ?_⟩
  exact exists_range (by simp) rfl hlast (hleast.2 hv) (hgreatest.2 hv)

/-- Some of ascending values in order, with the first and the last value around them, cover the
values. -/
theorem covers_of_members (h : values.Pairwise (· ≤ ·)) (hlow : values.head? = some low)
    (hhigh : values.getLast? = some high) {between : List α} (hordered : between.Pairwise (· ≤ ·))
    (hmembers : ∀ b ∈ between, b ∈ values) :
    Covers values (low :: between ++ [high]) ∧ ∀ b ∈ low :: between ++ [high], b ∈ values := by
  have hleast := isLeast_head h hlow
  have hgreatest := isGreatest_getLast h hhigh
  have hall : ∀ b ∈ low :: between ++ [high], b ∈ values := by
    intro b hb
    rcases List.mem_append.1 hb with hb | hb
    · rcases List.mem_cons.1 hb with rfl | hb
      · exact hleast.1
      · exact hmembers b hb
    · exact List.mem_singleton.1 hb ▸ hgreatest.1
  refine ⟨covers_of_ordered h hlow hhigh ?_, hall⟩
  rw [List.cons_append, List.pairwise_cons, List.pairwise_append]
  refine ⟨fun b hb => hleast.2 (hall b (List.mem_cons_of_mem _ hb)), hordered,
    List.pairwise_singleton _ _, ?_⟩
  intro b hb last hlast
  exact List.mem_singleton.1 hlast ▸ hgreatest.2 (hmembers b hb)

/-- The values at ascending ranks ascend. -/
theorem ordered_at_ranks (h : values.Pairwise (· ≤ ·)) {ranks : List Nat}
    (hranks : ranks.Pairwise (· ≤ ·)) :
    (ranks.filterMap fun rank : Nat => values[rank]?).Pairwise (· ≤ ·) := by
  rw [List.pairwise_filterMap]
  refine hranks.imp ?_
  intro rank next hle v hv w hw
  obtain ⟨hrank, rfl⟩ := List.getElem?_eq_some_iff.1 hv
  obtain ⟨hnext, rfl⟩ := List.getElem?_eq_some_iff.1 hw
  exact h.rel_get_of_le (a := ⟨rank, hrank⟩) (b := ⟨next, hnext⟩) hle

omit [LinearOrder α] in
theorem mem_of_mem_ranks {ranks : List Nat}
    (hv : v ∈ ranks.filterMap fun rank : Nat => values[rank]?) : v ∈ values := by
  obtain ⟨rank, -, hrank⟩ := List.mem_filterMap.1 hv
  exact List.mem_of_getElem? hrank

theorem pairwise_quantileRanks (n k : Nat) : (quantileRanks n k).Pairwise (· ≤ ·) := by
  rw [quantileRanks, List.pairwise_map]
  exact List.pairwise_le_range'.imp fun hle => Nat.div_le_div_right (Nat.mul_le_mul_right n hle)

/-- Breaks between classes of about the same size cover ascending values and are some of them. -/
theorem covers_quantile (h : values.Pairwise (· ≤ ·)) (hlow : values.head? = some low)
    (hhigh : values.getLast? = some high) (count : Nat) :
    Covers values (quantile values count) ∧ ∀ b ∈ quantile values count, b ∈ values := by
  unfold quantile
  rw [hlow, hhigh]
  exact covers_of_members h hlow hhigh (ordered_at_ranks h (pairwise_quantileRanks _ _))
    fun _ hb => mem_of_mem_ranks hb

/-- A sample ascends, is a part of the values and goes from the first to the last of them. -/
theorem sampleEvenly_spec (h : values.Pairwise (· ≤ ·)) (max : Nat) :
    (sampleEvenly values max).Pairwise (· ≤ ·) ∧ (∀ v ∈ sampleEvenly values max, v ∈ values) ∧
      (sampleEvenly values max).head? = values.head? ∧
      (sampleEvenly values max).getLast? = values.getLast? := by
  have hsublist := sampleEvenly_sublist values max
  obtain ⟨hhead, hlast⟩ := ends_sampleEvenly values max
  exact ⟨h.sublist hsublist, fun _ hv => hsublist.subset hv, hhead, hlast⟩

end Order

/-- Breaks at equal distances cover ascending values. -/
theorem covers_equalInterval {values : List ℚ} {low high : ℚ} (h : values.Pairwise (· ≤ ·))
    (hlow : values.head? = some low) (hhigh : values.getLast? = some high) (count : Nat) :
    Covers values (equalInterval low high count) := by
  obtain ⟨n, hn⟩ : ∃ n, max count 1 = n + 1 := ⟨max count 1 - 1, by omega⟩
  have hle : low ≤ high := (isLeast_head h hlow).2 (isGreatest_getLast h hhigh).1
  have hbreaks : equalInterval low high count =
      low :: (List.range n).map (fun i : Nat => low + (high - low) / (n + 1) * ((i : ℚ) + 1)) ++
        [high] := by
    have hstep (i : Nat) : low + (high - low) / Scalar.ofNat (n + 1) * Scalar.ofNat i =
        low + (high - low) / ((n : ℚ) + 1) * i := by
      rw [← Nat.cast_add_one]
      rfl
    unfold equalInterval
    dsimp only
    rw [hn, List.range_succ_eq_map, List.map_cons, List.map_map]
    simp only [Function.comp_def, hstep, Nat.cast_zero, mul_zero, add_zero, Nat.cast_add_one]
  have hstep : 0 ≤ (high - low) / ((n : ℚ) + 1) := div_nonneg (by linarith) (by positivity)
  have hlast (i : Nat) (hi : i < n) :
      low + (high - low) / ((n : ℚ) + 1) * ((i : ℚ) + 1) ≤ high := by
    have hi' : (i : ℚ) + 1 ≤ (n : ℚ) + 1 := by exact_mod_cast Nat.succ_le_succ hi.le
    calc low + (high - low) / ((n : ℚ) + 1) * ((i : ℚ) + 1)
        ≤ low + (high - low) / ((n : ℚ) + 1) * ((n : ℚ) + 1) := by gcongr
      _ = high := by field_simp; ring
  rw [hbreaks]
  refine covers_of_ordered h hlow hhigh ?_
  rw [List.cons_append, List.pairwise_cons, List.pairwise_append, List.pairwise_map]
  refine ⟨?_, List.pairwise_lt_range.imp fun hlt => ?_, List.pairwise_singleton _ _, ?_⟩
  · intro b hb
    rcases List.mem_append.1 hb with hb | hb
    · obtain ⟨i, -, rfl⟩ := List.mem_map.1 hb
      exact le_add_of_nonneg_right (mul_nonneg hstep (by positivity))
    · exact List.mem_singleton.1 hb ▸ hle
  · gcongr
  · intro b hb last hmem
    obtain ⟨i, hi, rfl⟩ := List.mem_map.1 hb
    exact List.mem_singleton.1 hmem ▸ hlast i (List.mem_range.1 hi)

end GeoLayers.Classification
