import GeoLayers.Proofs.Classification.Coverage
import GeoLayers.Proofs.Classification.Tables
import Mathlib.Algebra.BigOperators.Group.List.Lemmas

/-!
Natural breaks of ascending numbers without repetition. What a stage holds for a number of classes is
the least cost of all ways to cut the values into as many classes, and going back through the best
divisions cuts them in a way that costs no more.
-/

namespace GeoLayers.Classification

/-- A way to cut values into a number of consecutive classes, none of them empty. -/
structure Cutting (values : List ℚ) (k : Nat) (parts : List (List ℚ)) : Prop where
  length_eq : parts.length = k
  ne_nil : ∀ part ∈ parts, part ≠ []
  flatten_eq : parts.flatten = values

/-- The sum of the squared deviations from the mean. -/
def squaredDeviations (values : List ℚ) : ℚ :=
  (values.map fun v => (v - values.sum / values.length) ^ 2).sum

/-- What several classes cost together. -/
def totalDeviation (parts : List (List ℚ)) : ℚ := (parts.map squaredDeviations).sum

/-- Values up to the second break, then those between each break and the next one. -/
def classesOf (values : List ℚ) : List ℚ → List (List ℚ)
  | _ :: first :: rest =>
    values.filter (· ≤ first) ::
      List.zipWith (fun low high => values.filter fun v => low < v ∧ v ≤ high) (first :: rest) rest
  | _ => []

theorem deviation_eq_squaredDeviations (values : List ℚ) :
    deviation values = squaredDeviations values := by
  have hexpand (mean : ℚ) : (values.map fun v => (v - mean) ^ 2).sum =
      (values.map fun v => v * v).sum - 2 * mean * values.sum + values.length * (mean * mean) := by
    induction values with
    | nil => simp
    | cons v values ih =>
        simp only [List.map_cons, List.sum_cons, ih, List.length_cons, Nat.cast_add, Nat.cast_one]
        ring
  rw [squaredDeviations, hexpand, deviation_eq]
  rcases eq_or_ne values [] with rfl | hne
  · simp
  · have hlength : (values.length : ℚ) ≠ 0 := by simpa using hne
    field_simp
    ring

theorem squaredDeviations_reverse (values : List ℚ) :
    squaredDeviations values.reverse = squaredDeviations values := by
  rw [← deviation_eq_squaredDeviations, ← deviation_eq_squaredDeviations, deviation_eq, deviation_eq,
    List.map_reverse, List.sum_reverse, List.sum_reverse, List.length_reverse]

namespace Cutting

variable {values : List ℚ} {k : Nat} {parts : List (List ℚ)}

/-- The same classes of the values in the other direction. -/
def mirror (parts : List (List ℚ)) : List (List ℚ) := (parts.map List.reverse).reverse

theorem mirrored (h : Cutting values k parts) : Cutting values.reverse k (mirror parts) := by
  refine ⟨?_, ?_, ?_⟩
  · rw [mirror, List.length_reverse, List.length_map, h.length_eq]
  · intro part hpart
    obtain ⟨part', hpart', rfl⟩ := List.mem_map.1 (List.mem_reverse.1 hpart)
    simpa using h.ne_nil part' hpart'
  · rw [mirror, ← List.reverse_flatten, h.flatten_eq]

theorem totalDeviation_mirror (parts : List (List ℚ)) :
    totalDeviation (mirror parts) = totalDeviation parts := by
  rw [totalDeviation, mirror, List.map_reverse, List.sum_reverse, List.map_map, totalDeviation]
  congr 1
  exact List.map_congr_left fun part _ => squaredDeviations_reverse part

/-- A way to cut into several classes is a division with a way to cut the earlier values. -/
theorem tail {part : List ℚ} (h : Cutting values (k + 1) (part :: parts)) :
    Cutting parts.flatten k parts := by
  obtain ⟨hlength, hne, -⟩ := h
  exact ⟨Nat.succ.inj hlength, fun p hp => hne p (List.mem_cons_of_mem _ hp), rfl⟩

theorem ne_nil_of_pos (h : Cutting values (k + 1) parts) : values ≠ [] := by
  obtain ⟨part, parts, rfl⟩ := List.exists_cons_of_length_eq_add_one h.length_eq
  rw [← h.flatten_eq, List.flatten_cons]
  exact List.append_ne_nil_of_left_ne_nil (h.ne_nil part List.mem_cons_self) _

end Cutting

variable {classes i : Nat} {values : List ℚ}

/-- No way to cut some values into classes costs less than their stage has it. -/
theorem costOf_le_totalDeviation (hi : i < classes) {parts : List (List ℚ)}
    (h : Cutting values (i + 1) parts) : costOf classes i values ≤ totalDeviation parts := by
  induction i generalizing values parts with
  | zero =>
      obtain ⟨part, rfl⟩ := List.length_eq_one_iff.1 h.length_eq
      have hvalues : values = part := by simpa using h.flatten_eq.symm
      rw [costOf_zero hi h.ne_nil_of_pos, hvalues, deviation_eq_squaredDeviations]
      simp [totalDeviation]
  | succ i ih =>
      obtain ⟨part, parts, rfl⟩ := List.exists_cons_of_length_eq_add_one h.length_eq
      have htail := h.tail
      let e : Division values := ⟨part, parts.flatten, h.ne_nil part List.mem_cons_self,
        htail.ne_nil_of_pos, by rw [← h.flatten_eq, List.flatten_cons]⟩
      obtain ⟨d, -, hcost, hbest⟩ := exists_best_division hi e.two_le_length
      calc costOf classes (i + 1) values = d.cost classes i := hcost
        _ ≤ e.cost classes i := (hbest e).cost_le
        _ = squaredDeviations part + costOf classes i parts.flatten := by
          rw [Division.cost, deviation_eq_squaredDeviations]
        _ ≤ squaredDeviations part + totalDeviation parts :=
          add_le_add_right (ih (by omega) htail) _
        _ = totalDeviation (part :: parts) := by
          rw [totalDeviation, totalDeviation, List.map_cons, List.sum_cons]

/-- The greatest values of all classes but the last one, from the first class on; the last class comes
first. -/
def boundsOf (parts : List (List ℚ)) : List ℚ := (parts.tail.map fun part => part.head?.getD 0).reverse

/-- Where there are places for all breaks, going back through the stages cuts the values into classes
that cost together what the stage has. -/
theorem exists_cutting (hsorted : values.Pairwise (· ≥ ·)) (hi : i < classes) (hne : values ≠ [])
    (hplaces : i ≤ places values) :
    ∃ parts, Cutting values (i + 1) parts ∧ totalDeviation parts = costOf classes i values ∧
      ∀ later, innerBreaks i (stagesOf classes values) later = boundsOf parts ++ later := by
  induction i generalizing values with
  | zero =>
      refine ⟨[values], ⟨rfl, by simpa using hne, by simp⟩, ?_, fun later => by rfl⟩
      rw [costOf_zero hi hne, deviation_eq_squaredDeviations]
      simp [totalDeviation]
  | succ i ih =>
      have hlength := two_le_length_of_places hne (by omega)
      obtain ⟨d, hcut, hcost, hbest⟩ := exists_best_division hi hlength
      have hleft := places_of_best_of_ge hsorted hi hbest hplaces
      obtain ⟨parts, hparts, htotal, hbreaks⟩ :=
        ih (d.sorted_earlier hsorted) (by omega) d.earlier_ne hleft
      obtain ⟨value, rest, hearlier⟩ := List.exists_cons_of_ne_nil d.earlier_ne
      refine ⟨d.last :: parts, ⟨?_, ?_, ?_⟩, ?_, fun later => ?_⟩
      · rw [List.length_cons, hparts.length_eq]
      · exact List.forall_mem_cons.2 ⟨d.last_ne, hparts.ne_nil⟩
      · rw [List.flatten_cons, hparts.flatten_eq, d.parts]
      · rw [hcost, Division.cost, ← htotal, deviation_eq_squaredDeviations, totalDeviation,
          List.map_cons, List.sum_cons, totalDeviation]
      · rw [d.innerBreaks_eq hcut hearlier, hbreaks]
        obtain ⟨part, others, rfl⟩ := List.exists_cons_of_length_eq_add_one hparts.length_eq
        obtain ⟨v, more, rfl⟩ := List.exists_cons_of_ne_nil (hparts.ne_nil part List.mem_cons_self)
        have hvalue : v = value := by
          have hflatten := hparts.flatten_eq.trans hearlier
          rw [List.flatten_cons, List.cons_append] at hflatten
          exact (List.cons.inj hflatten).1
        simp [boundsOf, hvalue]

/-- The greatest value of a class of ascending values. -/
def boundOf (part : List ℚ) : ℚ := part.getLast?.getD 0

theorem isGreatest_boundOf {part : List ℚ} (hne : part ≠ []) (h : part.Pairwise (· < ·)) :
    IsGreatest {v | v ∈ part} (boundOf part) := by
  have hlast := List.getLast?_eq_some_getLast hne
  rw [boundOf, hlast, Option.getD_some]
  exact isGreatest_getLast (h.imp le_of_lt) hlast

/-- The bounds of the classes of ascending values cut them into these classes again. -/
theorem zipWith_bounds {before : List ℚ} {low : ℚ} {parts : List (List ℚ)}
    (hascending : (before ++ parts.flatten).Pairwise (· < ·)) (hne : ∀ part ∈ parts, part ≠ [])
    (hbefore : ∀ v ∈ before, v ≤ low) (hafter : ∀ v ∈ parts.flatten, low < v) :
    List.zipWith (fun low high => (before ++ parts.flatten).filter fun v => low < v ∧ v ≤ high)
      (low :: parts.map boundOf) (parts.map boundOf) = parts := by
  induction parts generalizing before low with
  | nil => rfl
  | cons part parts ih =>
      obtain ⟨hpart, hrest⟩ := List.forall_mem_cons.1 hne
      rw [List.flatten_cons] at hascending hafter
      have hinside := (List.pairwise_append.1 hascending).2.1
      obtain ⟨hmem, hbound⟩ := isGreatest_boundOf hpart (List.pairwise_append.1 hinside).1
      have hbeyond : ∀ v ∈ parts.flatten, boundOf part < v := fun v hv =>
        (List.pairwise_append.1 hinside).2.2 _ hmem v hv
      have hlow : low < boundOf part := hafter _ (List.mem_append_left _ hmem)
      rw [List.map_cons, List.zipWith_cons_cons, List.flatten_cons]
      congr 1
      · rw [List.filter_append, List.filter_append,
          List.filter_eq_nil_iff.2 fun v hv => by simp [not_lt.2 (hbefore v hv)],
          List.filter_eq_self.2 fun v hv => by
            simpa using ⟨hafter v (List.mem_append_left _ hv), hbound hv⟩,
          List.filter_eq_nil_iff.2 fun v hv => by simp [not_le.2 (hbeyond v hv)],
          List.nil_append, List.append_nil]
      · have hupto : ∀ v ∈ before ++ part, v ≤ boundOf part := by
          intro v hv
          rcases List.mem_append.1 hv with hv | hv
          · exact (hbefore v hv).trans hlow.le
          · exact hbound hv
        have htail := ih (by rwa [List.append_assoc]) hrest hupto hbeyond
        rwa [List.append_assoc] at htail

/-- Breaks at the bounds of classes describe these classes. -/
theorem classesOf_bounds {parts : List (List ℚ)} (hascending : parts.flatten.Pairwise (· < ·))
    (hne : ∀ part ∈ parts, part ≠ []) (low : ℚ) :
    classesOf parts.flatten (low :: parts.map boundOf) = parts := by
  cases parts with
  | nil => rfl
  | cons part parts =>
      obtain ⟨hpart, hrest⟩ := List.forall_mem_cons.1 hne
      rw [List.flatten_cons] at hascending ⊢
      obtain ⟨hmem, hbound⟩ := isGreatest_boundOf hpart (List.pairwise_append.1 hascending).1
      have hbeyond : ∀ v ∈ parts.flatten, boundOf part < v := fun v hv =>
        (List.pairwise_append.1 hascending).2.2 _ hmem v hv
      rw [List.map_cons, classesOf]
      congr 1
      · rw [List.filter_append, List.filter_eq_self.2 fun v hv => by simpa using hbound hv,
          List.filter_eq_nil_iff.2 fun v hv => by simpa using hbeyond v hv, List.append_nil]
      · exact zipWith_bounds hascending hrest (fun v hv => hbound hv) hbeyond

/-- The bounds of classes in the other direction. -/
theorem map_boundOf_mirror {k : Nat} {parts : List (List ℚ)} (h : Cutting values (k + 1) parts) :
    (Cutting.mirror parts).map boundOf = boundsOf parts ++ [values.head?.getD 0] := by
  obtain ⟨part, parts, rfl⟩ := List.exists_cons_of_length_eq_add_one h.length_eq
  obtain ⟨v, more, rfl⟩ := List.exists_cons_of_ne_nil (h.ne_nil part List.mem_cons_self)
  have hhead : values.head? = some v := by
    rw [← h.flatten_eq]
    rfl
  have hbound : boundOf ∘ List.reverse = fun part : List ℚ => part.head?.getD 0 := by
    funext part
    rw [Function.comp_apply, boundOf, List.getLast?_reverse]
  rw [Cutting.mirror, List.map_reverse, List.map_map, hbound, hhead]
  simp [boundsOf]

/-- Values without repetition have a place between any two of them. -/
theorem places_of_nodup (h : values.Nodup) : places values = values.length - 1 := by
  rw [places, List.toFinset_card_of_nodup (h.sublist (List.dropLast_sublist values)),
    List.length_dropLast]

/-- The classes that natural breaks describe are a way to cut the values that costs the least. -/
theorem naturalBreaks_spec_of_ascending {values : List ℚ} (hne : values ≠ [])
    (hascending : values.Pairwise (· < ·)) (count : Nat) :
    (naturalBreaks values count).length = classCount values count + 1 ∧
      Cutting values (classCount values count) (classesOf values (naturalBreaks values count)) ∧
      ∀ parts, Cutting values (classCount values count) parts →
        totalDeviation (classesOf values (naturalBreaks values count)) ≤ totalDeviation parts := by
  have hpos := List.length_pos_iff.2 hne
  obtain ⟨i, hcount⟩ : ∃ i, classCount values count = i + 1 :=
    ⟨classCount values count - 1, by unfold classCount; omega⟩
  have hi : i < values.length := by
    unfold classCount at hcount
    omega
  have hdescending : values.reverse.Pairwise (· > ·) := List.pairwise_reverse.2 hascending
  have hplaces : i ≤ places values.reverse := by
    rw [places_of_nodup (hdescending.imp ne_of_gt), List.length_reverse]
    omega
  obtain ⟨parts, hparts, htotal, hinner⟩ := exists_cutting (hdescending.imp le_of_lt)
    (Nat.lt_succ_self i) (List.reverse_ne_nil_iff.2 hne) hplaces
  have hmirrored := hparts.mirrored
  rw [List.reverse_reverse] at hmirrored
  have hbreaks : naturalBreaks values count =
      values.head hne :: (Cutting.mirror parts).map boundOf := by
    rw [naturalBreaks, List.head?_eq_some_head hne, List.getLast?_eq_some_getLast hne]
    dsimp only
    rw [hcount, Nat.add_sub_cancel, stages_eq, hinner, List.append_nil, map_boundOf_mirror hparts,
      List.head?_reverse, List.getLast?_eq_some_getLast hne, Option.getD_some, List.cons_append]
  have hclasses : classesOf values (naturalBreaks values count) = Cutting.mirror parts := by
    have hbounds := classesOf_bounds (hmirrored.flatten_eq.symm ▸ hascending) hmirrored.ne_nil
      (values.head hne)
    rwa [hmirrored.flatten_eq, ← hbreaks] at hbounds
  rw [hclasses, hcount]
  refine ⟨?_, hmirrored, fun parts' hparts' => ?_⟩
  · rw [hbreaks, List.length_cons, List.length_map, hmirrored.length_eq]
  · rw [Cutting.totalDeviation_mirror, htotal, ← Cutting.totalDeviation_mirror parts']
    exact costOf_le_totalDeviation (Nat.lt_succ_self i) hparts'.mirrored

/-- Natural breaks of ascending numbers without repetition bound as many classes as are asked for, but
at least one and at most one for each number. No way to cut the numbers into so many classes has a
smaller sum of squared deviations, and the search by a table that finds the breaks stays in bounds. -/
theorem naturalBreaks_optimal {values : List ℚ} (hne : values ≠ [])
    (hascending : values.Pairwise (· < ·)) (count : Nat) :
    (naturalBreaks values count).length = min (max count 1) values.length + 1 ∧
      Cutting values (min (max count 1) values.length) (classesOf values (naturalBreaks values count)) ∧
      (∀ parts, Cutting values (min (max count 1) values.length) parts →
        totalDeviation (classesOf values (naturalBreaks values count)) ≤ totalDeviation parts) ∧
      tableBreaks values count = some (naturalBreaks values count) := by
  obtain ⟨hlength, hcutting, hleast⟩ := naturalBreaks_spec_of_ascending hne hascending count
  exact ⟨hlength, hcutting, hleast, tableBreaks_eq values count⟩

/-- Three clusters are the best three classes. -/
theorem naturalBreaks_optimal_clusters :
    let values : List ℚ := [1, 2, 3, 10, 11, 12, 20, 21, 22]
    let clusters : List (List ℚ) := [[1, 2, 3], [10, 11, 12], [20, 21, 22]]
    naturalBreaks values 3 = [1, 3, 12, 22] ∧ classesOf values [1, 3, 12, 22] = clusters ∧
      (∀ parts, Cutting values 3 parts → totalDeviation clusters ≤ totalDeviation parts) ∧
      tableBreaks values 3 = some [1, 3, 12, 22] := by
  intro values clusters
  have hbreaks : naturalBreaks values 3 = [1, 3, 12, 22] := by decide +kernel
  have hclasses : classesOf values [1, 3, 12, 22] = clusters := by decide +kernel
  obtain ⟨-, -, hleast, htable⟩ :=
    naturalBreaks_optimal (List.cons_ne_nil _ _) (by decide +kernel : values.Pairwise (· < ·)) 3
  rw [hbreaks, hclasses] at hleast
  rw [hbreaks] at htable
  exact ⟨hbreaks, hclasses, hleast, htable⟩

end GeoLayers.Classification
