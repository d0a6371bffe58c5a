import GeoLayers.Proofs.Classification.Quantile

/-!
Samples of ascending values. The places of a sample cut the way from the first value to the last one
into steps of which none is longer than another by more than one place, so they neither repeat nor
run over the end, and the sample has the first and the last value.
-/

namespace GeoLayers.Classification

/-- The places that a sample of `count` values is taken at: from the first place to the last one, with
steps as long as the way is for each step, rounded down or up. -/
structure SpreadPlaces {n : Nat} (places : List (Fin n)) (count : Nat) : Prop where
  length_eq : places.length = count
  increasing : places.Pairwise (· < ·)
  first : places.head?.map Fin.val = some 0
  last : places.getLast?.map Fin.val = some (n - 1)
  step : ∀ i place next, places[i]? = some place → places[i + 1]? = some next →
    next.val - place.val = (n - 1) / (count - 1) ∨
      next.val - place.val = (n - 1 + (count - 1) - 1) / (count - 1)

/-! ### Ranks -/

section Ranks

variable {n max : Nat}

theorem length_sampleRanks (n max : Nat) : (sampleRanks n max).length = max := by
  rw [sampleRanks, List.length_map, List.length_range]

theorem getElem?_sampleRanks {i : Nat} (hi : i < max) :
    (sampleRanks n max)[i]? = some (i * (n - 1) / (max - 1)) := by
  rw [sampleRanks, List.getElem?_map, List.getElem?_range hi, Option.map_some]

theorem pairwise_sampleRanks (htwo : 2 ≤ max) (hlt : max < n) :
    (sampleRanks n max).Pairwise (· < ·) := by
  rw [sampleRanks, List.pairwise_map]
  exact List.pairwise_lt_range.imp fun hij => rank_lt_rank (by omega) (by omega) hij

theorem lt_of_mem_sampleRanks (htwo : 2 ≤ max) (hlt : max < n) :
    ∀ rank ∈ sampleRanks n max, rank < n := by
  intro rank hrank
  obtain ⟨i, hi, rfl⟩ := List.mem_map.1 hrank
  have hi : i ≤ max - 1 := Nat.le_sub_one_of_lt (List.mem_range.1 hi)
  have hle : i * (n - 1) / (max - 1) ≤ n - 1 := by
    calc i * (n - 1) / (max - 1)
        ≤ (max - 1) * (n - 1) / (max - 1) := Nat.div_le_div_right (Nat.mul_le_mul_right _ hi)
      _ = n - 1 := rank_last (by omega)
  omega

theorem head?_sampleRanks (hmax : 0 < max) : (sampleRanks n max).head? = some 0 := by
  rw [List.head?_eq_getElem?, getElem?_sampleRanks hmax, Nat.zero_mul, Nat.zero_div]

theorem getLast?_sampleRanks (htwo : 2 ≤ max) : (sampleRanks n max).getLast? = some (n - 1) := by
  rw [List.getLast?_eq_getElem?, length_sampleRanks, getElem?_sampleRanks (by omega),
    rank_last (by omega)]

end Ranks

/-! ### Samples -/

section Samples

variable {α : Type} {values : List α}

/-- Values that are looked up at ranks where there is one are the values at these places. -/
theorem filterMap_getElem? {ranks : List Nat} (h : ∀ rank ∈ ranks, rank < values.length) :
    (ranks.filterMap fun rank : Nat => values[rank]?) = (ranks.pmap Fin.mk h).map values.get := by
  induction ranks with
  | nil => rfl
  | cons rank ranks ih =>
      rw [List.forall_mem_cons] at h
      rw [List.filterMap_cons_some (List.getElem?_eq_getElem h.1), ih h.2]
      rfl

theorem spreadPlaces_sampleRanks {n max : Nat} (htwo : 2 ≤ max) (hlt : max < n) :
    SpreadPlaces ((sampleRanks n max).pmap Fin.mk (lt_of_mem_sampleRanks htwo hlt)) max := by
  have hvals : ((sampleRanks n max).pmap Fin.mk (lt_of_mem_sampleRanks htwo hlt)).map Fin.val =
      sampleRanks n max := by
    rw [List.map_pmap, List.pmap_eq_map, List.map_id']
  refine {
    length_eq := by rw [List.length_pmap, length_sampleRanks]
    increasing := ?_
    first := by rw [← List.head?_map, hvals, head?_sampleRanks (by omega)]
    last := by rw [← List.getLast?_map, hvals, getLast?_sampleRanks htwo]
    step := ?_ }
  · have hpairs := pairwise_sampleRanks htwo hlt
    rw [← hvals, List.pairwise_map] at hpairs
    exact hpairs
  · intro i place next hplace hnext
    have hi : i + 1 < max := by
      have hbound := (List.getElem?_eq_some_iff.1 hnext).1
      rwa [List.length_pmap, length_sampleRanks] at hbound
    have hplace := congrArg (Option.map Fin.val) hplace
    have hnext := congrArg (Option.map Fin.val) hnext
    rw [← List.getElem?_map, hvals, getElem?_sampleRanks (by omega)] at hplace hnext
    rw [← Option.some.inj hplace, ← Option.some.inj hnext]
    exact rank_succ_sub (by omega) i

theorem sampleEvenly_eq_self {max : Nat} (h : values.length ≤ max ∨ max < 2) :
    sampleEvenly values max = values := if_pos h

/-- A sample of fewer values than there are is taken at places that are spread evenly. -/
theorem exists_spreadPlaces (values : List α) {max : Nat} (htwo : 2 ≤ max) (hlt : max < values.length) :
    ∃ places : List (Fin values.length), SpreadPlaces places max ∧
      sampleEvenly values max = places.map values.get := by
  refine ⟨_, spreadPlaces_sampleRanks htwo hlt, ?_⟩
  rw [sampleEvenly, if_neg (by omega)]
  exact filterMap_getElem? _

theorem sampleEvenly_sublist (values : List α) (max : Nat) :
    (sampleEvenly values max).Sublist values := by
  by_cases h : values.length ≤ max ∨ max < 2
  · rw [sampleEvenly_eq_self h]
  · obtain ⟨htwo, hlt⟩ : 2 ≤ max ∧ max < values.length := by omega
    obtain ⟨places, hplaces, hsample⟩ := exists_spreadPlaces values htwo hlt
    rw [hsample]
    exact List.map_getElem_sublist hplaces.increasing

/-- The ends of a sample are those of the values. -/
theorem ends_sampleEvenly (values : List α) (max : Nat) :
    (sampleEvenly values max).head? = values.head? ∧
      (sampleEvenly values max).getLast? = values.getLast? := by
  by_cases h : values.length ≤ max ∨ max < 2
  · rw [sampleEvenly_eq_self h]
    exact ⟨rfl, rfl⟩
  · obtain ⟨htwo, hlt⟩ : 2 ≤ max ∧ max < values.length := by omega
    obtain ⟨places, hplaces, hsample⟩ := exists_spreadPlaces values htwo hlt
    obtain ⟨first, hfirst, hzero⟩ := Option.map_eq_some_iff.1 hplaces.first
    obtain ⟨last, hlast, hend⟩ := Option.map_eq_some_iff.1 hplaces.last
    rw [hsample, List.head?_map, List.getLast?_map, hfirst, hlast, List.head?_eq_getElem?,
      List.getLast?_eq_getElem?, ← hzero, ← hend]
    exact ⟨(List.getElem?_eq_getElem first.2).symm, (List.getElem?_eq_getElem last.2).symm⟩

/-- A sample is the values themselves where there are no more of them, or fewer than two are asked
for, and otherwise the values at places that are spread evenly. A sample of ascending values ascends,
and it begins with the least and ends with the greatest of them. -/
theorem sampleEvenly_spread (values : List α) (max : Nat) :
    (values.length ≤ max ∨ max < 2 → sampleEvenly values max = values) ∧
    (2 ≤ max ∧ max < values.length → ∃ places : List (Fin values.length),
      SpreadPlaces places max ∧ sampleEvenly values max = places.map values.get) ∧
    ∀ le : α → α → Prop, values.Pairwise le → (∀ v ∈ values, le v v) → values ≠ [] →
      (sampleEvenly values max).Pairwise le ∧ (∀ v ∈ sampleEvenly values max, v ∈ values) ∧
      ∃ low high, (sampleEvenly values max).head? = some low ∧
        (sampleEvenly values max).getLast? = some high ∧
        low ∈ values ∧ high ∈ values ∧ ∀ v ∈ values, le low v ∧ le v high := by
  refine ⟨sampleEvenly_eq_self, fun h => exists_spreadPlaces values h.1 h.2, ?_⟩
  intro le hsorted hrefl hne
  have hsublist := sampleEvenly_sublist values max
  obtain ⟨hhead, hlast⟩ := ends_sampleEvenly values max
  refine ⟨hsorted.sublist hsublist, fun v hv => hsublist.subset hv, values.head hne,
    values.getLast hne, ?_, ?_, List.head_mem hne, List.getLast_mem hne, ?_⟩
  · rw [hhead, List.head?_eq_some_head hne]
  · rw [hlast, List.getLast?_eq_some_getLast hne]
  · intro v hv
    exact ⟨le_of_head hne hrefl hsorted v hv, le_of_getLast hne hrefl hsorted v hv⟩

/-- A sample of all numbers but one. -/
theorem sampleEvenly_spread_seven_numbers :
    let values : List Nat := [1, 2, 2, 3, 5, 8, 13]
    (∃ places : List (Fin 7), SpreadPlaces places 6 ∧
        sampleEvenly values 6 = places.map values.get) ∧
      (sampleEvenly values 6).Pairwise (· ≤ ·) ∧ sampleEvenly values 6 = [1, 2, 2, 3, 5, 13] := by
  intro values
  obtain ⟨-, hspread, hordered⟩ := sampleEvenly_spread values 6
  have hsorted : values.Pairwise (· ≤ ·) := by decide
  have hsample := (hordered (· ≤ ·) hsorted (fun v _ => le_refl v) (List.cons_ne_nil _ _)).1
  exact ⟨hspread (by decide), hsample, by decide⟩

end Samples

end GeoLayers.Classification
