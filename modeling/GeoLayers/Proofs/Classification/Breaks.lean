import GeoLayers.Proofs.Classification.Coverage
import GeoLayers.Proofs.Classification.Natural

/-!
Which breaks cover the values. Natural breaks do exactly if there are no more inner breaks than
places for them, or if the breaks that are left at zero are right because zero is the first value;
the other breaks always do.
-/

namespace GeoLayers.Classification

theorem places_reverse (values : List ℚ) : places values.reverse = values.tail.toFinset.card := by
  rw [places, List.dropLast_reverse, List.toFinset_reverse]

/-- The natural breaks of ascending values. -/
theorem naturalBreaks_spec {sample : List ℚ} {low high : ℚ} (h : sample.Pairwise (· ≤ ·))
    (hlow : sample.head? = some low) (hhigh : sample.getLast? = some high) (count : Nat) :
    ∃ placed, naturalBreaks sample count = low ::
        (List.replicate (classCount sample count - 1 - sample.tail.toFinset.card) 0 ++ placed) ++
          [high] ∧
      placed.Pairwise (· ≤ ·) ∧ (∀ b ∈ placed, b ∈ sample) ∧
      (sample.tail.toFinset.card + 1 < classCount sample count → low ∈ placed) := by
  have hne : sample ≠ [] := by
    rintro rfl
    cases hlow
  have hpos := List.length_pos_iff.2 hne
  have hclasses : 1 ≤ classCount sample count := by
    unfold classCount
    omega
  obtain ⟨placed, hbreaks, hlength, hordered, hmembers, hfirst⟩ :=
    innerBreaks_spec (List.pairwise_reverse.2 h) (Nat.sub_lt hclasses Nat.one_pos)
      (List.reverse_ne_nil_iff.2 hne) []
  rw [places_reverse, List.append_nil] at hbreaks
  rw [places_reverse] at hlength hfirst
  refine ⟨placed, ?_, hordered, fun b hb => List.mem_reverse.1 (hmembers b hb), fun hmore => ?_⟩
  · rw [naturalBreaks, hlow, hhigh]
    dsimp only
    rw [stages_eq, hbreaks]
  · -- with several classes there are several values, so there is a place
    have hplaces : sample.tail.toFinset.card ≠ 0 := by
      intro hzero
      have hsingle : 2 ≤ sample.length := by
        unfold classCount at hmore
        omega
      rw [Finset.card_eq_zero, List.toFinset_eq_empty_iff, ← List.length_eq_zero_iff,
        List.length_tail] at hzero
      omega
    have hplaced : placed ≠ [] := by
      rintro rfl
      rw [List.length_nil] at hlength
      omega
    have hhead := hfirst (by omega) hplaced
    rw [List.getLast?_reverse, hlow] at hhead
    exact List.mem_of_mem_head? hhead

/-- Natural breaks that were sought in a sample cover the values, and are some of them, exactly if
there are places for them or zero is the first value. -/
theorem covers_naturalBreaks_iff {values sample : List ℚ} {low high : ℚ}
    (h : values.Pairwise (· ≤ ·)) (hlow : values.head? = some low)
    (hhigh : values.getLast? = some high) (hsorted : sample.Pairwise (· ≤ ·))
    (hpart : ∀ v ∈ sample, v ∈ values) (hfirst : sample.head? = some low)
    (hlast : sample.getLast? = some high) (count : Nat) :
    Covers values (naturalBreaks sample count) ∧ (∀ b ∈ naturalBreaks sample count, b ∈ values) ↔
      low = 0 ∨ classCount sample count ≤ sample.tail.toFinset.card + 1 := by
  obtain ⟨placed, hbreaks, hordered, hmembers, hmore⟩ :=
    naturalBreaks_spec hsorted hfirst hlast count
  have hleast := isLeast_head h hlow
  rw [hbreaks]
  constructor
  · rintro ⟨hcovers, -⟩
    by_contra hnot
    obtain ⟨hzero, hmany⟩ := not_or.1 hnot
    have hlow : low ∈ placed := hmore (by omega)
    -- a zero stands between two breaks at the least value
    have hleft : 0 ∈ List.replicate (classCount sample count - 1 - sample.tail.toFinset.card)
        (0 : ℚ) := List.mem_replicate.2 ⟨by omega, rfl⟩
    have hbreaks := hcovers.ordered
    rw [List.cons_append, List.pairwise_cons, List.append_assoc, List.pairwise_append] at hbreaks
    have hge : low ≤ 0 := hbreaks.1 0 (List.mem_append_left _ hleft)
    have hle : 0 ≤ low := hbreaks.2.2.2 0 hleft low (List.mem_append_left _ hlow)
    exact hzero (le_antisymm hge hle)
  · intro hcondition
    have hzeros : ∀ b ∈ List.replicate (classCount sample count - 1 - sample.tail.toFinset.card)
        (0 : ℚ), b = low := by
      intro b hb
      obtain ⟨hleft, rfl⟩ := List.mem_replicate.1 hb
      rcases hcondition with rfl | hfew
      · rfl
      · omega
    refine covers_of_members h hlow hhigh ?_ ?_
    · rw [List.pairwise_append]
      refine ⟨List.pairwise_replicate.2 (.inr le_rfl), hordered, fun b hb c hc => ?_⟩
      exact hzeros b hb ▸ hleast.2 (hpart c (hmembers c hc))
    · intro b hb
      rcases List.mem_append.1 hb with hb | hb
      · exact hzeros b hb ▸ hleast.1
      · exact hpart b (hmembers b hb)

/-- The breaks of ascending numbers cover them, and are some of them unless they are at equal
distances, exactly if, for natural breaks, there is at most one class more than there are distinct
values after the first, or the first value is zero. -/
theorem breaks_cover_iff {values : List ℚ} (hne : values ≠ []) (h : values.Pairwise (· ≤ ·))
    (method : Method) (count : Nat) :
    Covers values (breaksFor values method count) ∧
        (method ≠ .equalInterval → ∀ b ∈ breaksFor values method count, b ∈ values) ↔
      (method = .naturalBreaks → values.head? = some 0 ∨
        classCount (sampleEvenly values largestSample) count ≤
          (sampleEvenly values largestSample).tail.toFinset.card + 1) := by
  have hlow := List.head?_eq_some_head hne
  have hhigh := List.getLast?_eq_some_getLast hne
  cases method with
  | equalInterval =>
      have hcovers := covers_equalInterval h hlow hhigh count
      simp only [breaksFor, hlow, hhigh]
      exact ⟨fun _ => nofun, fun _ => ⟨hcovers, fun hmethod => absurd rfl hmethod⟩⟩
  | quantile =>
      obtain ⟨hcovers, hmembers⟩ := covers_quantile h hlow hhigh count
      simp only [breaksFor, hlow, hhigh]
      exact ⟨fun _ => nofun, fun _ => ⟨hcovers, fun _ => hmembers⟩⟩
  | naturalBreaks =>
      obtain ⟨hsorted, hpart, hfirst, hlast⟩ := sampleEvenly_spec h largestSample
      have hiff := covers_naturalBreaks_iff h hlow hhigh hsorted hpart (hfirst.trans hlow)
        (hlast.trans hhigh) count
      simp only [breaksFor, hlow, hhigh]
      simpa using hiff

/-- Three classes of four numbers, of which two are equal: two distinct values are left after the
first. -/
theorem breaks_cover_four_numbers :
    let values : List ℚ := [1, 2, 2, 5]
    Covers values (breaksFor values .naturalBreaks 3) ∧
      ∀ b ∈ breaksFor values .naturalBreaks 3, b ∈ values := by
  intro values
  have hsorted : values.Pairwise (· ≤ ·) := by decide +kernel
  have hcover := (breaks_cover_iff (List.cons_ne_nil _ _) hsorted .naturalBreaks 3).2
    fun _ => .inr (by decide +kernel)
  exact ⟨hcover.1, hcover.2 (by decide)⟩

/-- A value three times over in three classes: zero is given as a break. -/
theorem repeated_value_not_covered :
    breaksFor ([5, 5, 5] : List ℚ) .naturalBreaks 3 = [5, 0, 5, 5] ∧
      ¬ Covers ([5, 5, 5] : List ℚ) (breaksFor ([5, 5, 5] : List ℚ) .naturalBreaks 3) := by
  have hbreaks : breaksFor ([5, 5, 5] : List ℚ) .naturalBreaks 3 = [5, 0, 5, 5] := by
    decide +kernel
  refine ⟨hbreaks, fun hcovers => ?_⟩
  rw [hbreaks] at hcovers
  exact absurd hcovers.ordered (by decide +kernel)

end GeoLayers.Classification
