import GeoLayers.Proofs.Classification.Division
import Mathlib.Data.Finset.Card

/-!
Where natural breaks are placed. As long as more breaks are asked for than there are places, the
last class of the best division is all of one value, for a class that costs nothing is the longest
of its kind; otherwise the earlier classes are left as many places as they can use. So going back
through the divisions places one break at every place, and the breaks that are left stay zero.
-/

namespace GeoLayers.Classification

variable {classes i : Nat} {values : List ℚ}

/-- The number of inner breaks that there are places for among values of which the latest comes
first: one for every distinct value after the first one. -/
def places (values : List ℚ) : Nat := values.dropLast.toFinset.card

@[simp] theorem places_singleton (value : ℚ) : places [value] = 0 := rfl

theorem places_append {last earlier : List ℚ} (h : earlier ≠ []) :
    places (last ++ earlier) = (last.toFinset ∪ earlier.dropLast.toFinset).card := by
  rw [places, List.dropLast_append_of_ne_nil h, List.toFinset_append]

theorem length_eq_one_of_places (hne : values ≠ []) (h : places values = 0) :
    ∃ value, values = [value] := by
  obtain ⟨value, earlier, rfl⟩ := List.exists_cons_of_ne_nil hne
  rcases eq_or_ne earlier [] with rfl | hearlier
  · exact ⟨value, rfl⟩
  · rw [places, List.dropLast_cons_of_ne_nil hearlier, List.toFinset_cons] at h
    simp at h

theorem two_le_length_of_places (hne : values ≠ []) (h : places values ≠ 0) :
    2 ≤ values.length := by
  obtain ⟨value, earlier, rfl⟩ := List.exists_cons_of_ne_nil hne
  rcases eq_or_ne earlier [] with rfl | hearlier
  · exact absurd rfl h
  · have := List.length_pos_iff.2 hearlier
    rw [List.length_cons]
    omega

/-- A class that ends where the values change takes one place. -/
theorem places_cons {value : ℚ} {earlier : List ℚ} (hne : earlier ≠ [])
    (h : value ∉ earlier.dropLast) : places (value :: earlier) = places earlier + 1 := by
  rw [places, List.dropLast_cons_of_ne_nil hne, List.toFinset_cons,
    Finset.card_insert_of_notMem (by simpa using h), places]

/-- A repeated value takes no place. -/
theorem places_cons_of_mem {value : ℚ} {earlier : List ℚ} (h : value ∈ earlier.dropLast) :
    places (value :: earlier) = places earlier := by
  have hne : earlier ≠ [] := by
    rintro rfl
    cases h
  rw [places, List.dropLast_cons_of_ne_nil hne, List.toFinset_cons,
    Finset.insert_eq_of_mem (by simpa using h), places]

/-- A division whose last class costs nothing and is the longest of its kind. It takes one place. -/
structure Division.Longest (d : Division values) : Prop where
  free : deviation d.last = 0
  places_earlier : places d.earlier + 1 = places values
  length_le : ∀ e : Division values, deviation e.last = 0 → d.earlier.length ≤ e.earlier.length

/-- The longest class goes on by a repeated value. -/
theorem Division.Longest.extend {value : ℚ} {others : List ℚ} {d : Division (value :: others)}
    (h : d.Longest) (hothers : others ≠ []) : (d.extend value).Longest := by
  refine ⟨?_, ?_, ?_⟩
  · exact deviation_cons_eq_zero_iff.2 fun x hx =>
      deviation_eq_zero_iff.1 h.free x hx value d.mem_last
  · have hagain : value ∈ (value :: others).dropLast := by
      rw [List.dropLast_cons_of_ne_nil hothers]
      exact List.mem_cons_self
    rw [places_cons_of_mem hagain]
    exact h.places_earlier
  · intro e he
    rcases e.eq_first_or_extend with ⟨_, rfl⟩ | ⟨c, rfl⟩
    · exact (d.length_parts ▸ Nat.le_add_left _ _ : d.earlier.length ≤ _)
    · refine h.length_le c (deviation_eq_zero_iff.2 fun x hx y hy => ?_)
      have hall := deviation_cons_eq_zero_iff.1 he
      exact (hall x hx).trans (hall y hy).symm

/-- The latest value is the longest class by itself if the next one is less, or is the only other. -/
theorem Division.longest_first {value next : ℚ} {others : List ℚ}
    (hsorted : (value :: next :: others).Pairwise (· ≥ ·)) (hstop : value = next → others = []) :
    (first value (List.cons_ne_nil next others)).Longest := by
  rw [List.pairwise_cons] at hsorted
  refine ⟨deviation_singleton value, ?_, ?_⟩
  · refine (places_cons (List.cons_ne_nil _ _) fun hmem => ?_).symm
    have hothers : others ≠ [] := by
      rintro rfl
      cases hmem
    have hle : value ≤ next := by
      rcases List.mem_cons.1 (List.mem_of_mem_dropLast hmem) with rfl | hmem
      · exact le_refl _
      · exact (List.pairwise_cons.1 hsorted.2).1 value hmem
    exact hothers (hstop (le_antisymm hle (hsorted.1 next List.mem_cons_self)))
  · intro e he
    rcases e.eq_first_or_extend with ⟨_, rfl⟩ | ⟨c, rfl⟩
    · exact le_refl _
    · obtain rfl := hstop (deviation_cons_eq_zero_iff.1 he next c.mem_last).symm
      exact absurd c.two_le_length (by simp)

/-- Several descending values have a longest last class that costs nothing: all of the latest value,
as far as others are left. -/
theorem Division.exists_longest (hsorted : values.Pairwise (· ≥ ·)) (hlength : 2 ≤ values.length) :
    ∃ d : Division values, d.Longest := by
  induction values with
  | nil => simp at hlength
  | cons value earlier ih =>
      obtain ⟨next, others, rfl⟩ : ∃ next others, earlier = next :: others :=
        List.exists_cons_of_ne_nil (by rintro rfl; simp at hlength)
      by_cases hgoes : value = next ∧ others ≠ []
      · obtain ⟨rfl, hothers⟩ := hgoes
        have hpos := List.length_pos_iff.2 hothers
        obtain ⟨d, hd⟩ := ih (List.pairwise_cons.1 hsorted).2 (by rw [List.length_cons]; omega)
        exact ⟨d.extend value, hd.extend hothers⟩
      · exact ⟨_, longest_first hsorted fun heq => not_not.1 fun hothers => hgoes ⟨heq, hothers⟩⟩

theorem costOf_nonneg (hi : i < classes) (hne : values ≠ []) : 0 ≤ costOf classes i values := by
  induction i generalizing values with
  | zero => exact costOf_zero hi hne ▸ deviation_nonneg values
  | succ i ih =>
      obtain ⟨value, earlier, rfl⟩ := List.exists_cons_of_ne_nil hne
      rcases eq_or_ne earlier [] with rfl | hearlier
      · exact (costOf_singleton hi value).ge
      · have hpos := List.length_pos_iff.2 hearlier
        obtain ⟨d, -, hcost, -⟩ := exists_best_division hi
          (show 2 ≤ (value :: earlier).length by rw [List.length_cons]; omega)
        rw [hcost]
        exact add_nonneg (deviation_nonneg _) (ih (by omega) d.earlier_ne)

/-- Descending values cost nothing in so many classes that every place has a break. -/
theorem costOf_eq_zero (hsorted : values.Pairwise (· ≥ ·)) (hi : i < classes) (hne : values ≠ [])
    (hplaces : places values ≤ i) : costOf classes i values = 0 := by
  induction i generalizing values with
  | zero =>
      obtain ⟨value, rfl⟩ := length_eq_one_of_places hne (by omega)
      exact costOf_singleton hi value
  | succ i ih =>
      by_cases hzero : places values = 0
      · obtain ⟨value, rfl⟩ := length_eq_one_of_places hne hzero
        exact costOf_singleton hi value
      · have hlength := two_le_length_of_places hne hzero
        obtain ⟨d, -, hcost, hbest⟩ := exists_best_division hi hlength
        obtain ⟨e, he⟩ := Division.exists_longest hsorted hlength
        have hleft := he.places_earlier
        have hcheap : e.cost classes i = 0 := by
          rw [Division.cost, he.free,
            ih (e.sorted_earlier hsorted) (by omega) e.earlier_ne (by omega), add_zero]
        refine le_antisymm ?_ (costOf_nonneg hi hne)
        rw [hcost, ← hcheap]
        exact (hbest e).cost_le

/-- If there are breaks for every place, the best division leaves out one place. -/
theorem places_of_best_of_le (hsorted : values.Pairwise (· ≥ ·)) (hi : i + 1 < classes)
    {d : Division values} (hbest : ∀ e, d.NoWorse classes i e) (hplaces : places values ≤ i + 1) :
    places d.earlier + 1 = places values := by
  obtain ⟨e, he⟩ := Division.exists_longest hsorted d.two_le_length
  have hleft := he.places_earlier
  have hcheap : e.cost classes i = 0 := by
    rw [Division.cost, he.free, costOf_eq_zero (e.sorted_earlier hsorted) (by omega) e.earlier_ne
      (by omega), add_zero]
  have hrest := costOf_nonneg (show i < classes by omega) d.earlier_ne
  have hcost : d.cost classes i ≤ 0 := hcheap ▸ (hbest e).cost_le
  have hlast : deviation d.last = 0 := by
    refine le_antisymm ?_ (deviation_nonneg _)
    rw [Division.cost] at hcost
    linarith
  have hnonneg : 0 ≤ d.cost classes i := add_nonneg (deviation_nonneg _) hrest
  have hde : d = e := Division.eq_of_length <|
    le_antisymm ((hbest e).length_le (hcheap ▸ hnonneg)) (he.length_le d hlast)
  rw [hde]
  exact hleft

/-- If there are places for all breaks, the best division leaves places for the other breaks: a last
class that had taken two of them would cost less without its least value. -/
theorem places_of_best_of_ge (hsorted : values.Pairwise (· ≥ ·)) (hi : i + 1 < classes)
    {d : Division values} (hbest : ∀ e, d.NoWorse classes i e) (hplaces : i + 1 ≤ places values) :
    i ≤ places d.earlier := by
  by_contra hfew
  have htwo : 2 ≤ d.last.toFinset.card := by
    have hunion : places values ≤ d.last.toFinset.card + places d.earlier := by
      conv_lhs => rw [← d.parts, places_append d.earlier_ne]
      exact Finset.card_union_le _ _
    omega
  obtain ⟨last, earlier, hlast, hearlier, rfl⟩ := d
  dsimp only at hfew htwo
  obtain ⟨front, least, rfl⟩ : ∃ front least, last = front ++ [least] :=
    ⟨_, _, (List.dropLast_append_getLast hlast).symm⟩
  have hbelow : ∀ x ∈ front, least ≤ x := fun x hx =>
    (List.pairwise_append.1 (List.pairwise_append.1 hsorted).1).2.2 x hx least (by simp)
  obtain ⟨x, hx, hlt⟩ : ∃ x ∈ front, least < x := by
    by_contra hnone
    have hall : (front ++ [least]).toFinset ⊆ {least} := by
      intro x hx
      rcases List.mem_append.1 (List.mem_toFinset.1 hx) with hx | hx
      · have hge : ¬ least < x := fun hlt => hnone ⟨x, hx, hlt⟩
        exact Finset.mem_singleton.2 (le_antisymm (not_lt.1 hge) (hbelow x hx))
      · simpa using hx
    have hone := Finset.card_le_card hall
    rw [Finset.card_singleton] at hone
    omega
  -- the least value of the last class goes to the earlier classes
  let e : Division (front ++ [least] ++ earlier) :=
    ⟨front, least :: earlier, List.ne_nil_of_mem hx, by simp, by simp⟩
  have hmoved : places (least :: earlier) ≤ places earlier + 1 := by
    by_cases hmem : least ∈ earlier.dropLast
    · exact (places_cons_of_mem hmem).le.trans (Nat.le_succ _)
    · exact (places_cons hearlier hmem).le
  have hcost : e.cost classes i = deviation front := by
    rw [Division.cost, costOf_eq_zero (e.sorted_earlier hsorted) (by omega) e.earlier_ne
      (show places (least :: earlier) ≤ i by omega), add_zero]
  have hle := (hbest e).cost_le
  rw [hcost, Division.cost, costOf_eq_zero (List.pairwise_append.1 hsorted).2.1 (by omega) hearlier
    (by omega), add_zero] at hle
  exact absurd (deviation_lt_concat hbelow hx hlt) (not_lt.2 hle)

/-- The breaks go on where a cut has its earlier values. -/
theorem innerBreaks_of_cut {last rest : List ℚ} {value : ℚ} {cut : Cut ℚ} (hlast : last ≠ [])
    (hcut : (cutsOf classes (last ++ value :: rest))[i + 1]? = some cut)
    (hbefore : cut.before = rest.length + 1) (later : List ℚ) :
    innerBreaks (i + 1) (stagesOf classes (last ++ value :: rest)) later =
      innerBreaks i (stagesOf classes (value :: rest)) (value :: later) := by
  have hdrop : (stagesOf classes (last ++ value :: rest)).drop
      ((stagesOf classes (last ++ value :: rest)).length - (rest.length + 1)) =
        stagesOf classes (value :: rest) := by
    rw [length_stagesOf, List.length_append, List.length_cons, Nat.add_sub_cancel, drop_stagesOf]
  obtain ⟨head, tail, rfl⟩ := List.exists_cons_of_ne_nil hlast
  rw [List.cons_append] at hcut hdrop ⊢
  rw [stagesOf_cons classes head] at hdrop ⊢
  rw [innerBreaks.eq_def]
  simp only [hcut, Option.map_some, Option.getD_some, hbefore]
  rw [hdrop, stagesOf_cons classes value]

/-- Going back from a division that a stage holds, the next break is the latest of the earlier
values. -/
theorem Division.innerBreaks_eq {d : Division values} {value : ℚ} {rest : List ℚ}
    (hcut : (cutsOf classes values)[i + 1]? = some (d.cut classes i))
    (hearlier : d.earlier = value :: rest) (later : List ℚ) :
    innerBreaks (i + 1) (stagesOf classes values) later =
      innerBreaks i (stagesOf classes d.earlier) (value :: later) := by
  have hparts := d.parts
  rw [hearlier] at hparts
  have hbefore : (d.cut classes i).before = rest.length + 1 := by
    change d.earlier.length = rest.length + 1
    rw [hearlier, List.length_cons]
  have hgoes := innerBreaks_of_cut d.last_ne (by rw [hparts]; exact hcut) hbefore later
  rw [hearlier, ← hgoes, hparts]

/-- Where there is a place, the next break is put before the last class of the best division. -/
theorem exists_next_break (hsorted : values.Pairwise (· ≥ ·)) (hi : i + 1 < classes)
    (hne : values ≠ []) (hplaces : places values ≠ 0) :
    ∃ d : Division values, ∃ value rest, d.earlier = value :: rest ∧
      (∀ later, innerBreaks (i + 1) (stagesOf classes values) later =
        innerBreaks i (stagesOf classes d.earlier) (value :: later)) ∧
      (places values ≤ i + 1 → places d.earlier + 1 = places values) ∧
      (i + 1 ≤ places values → i ≤ places d.earlier) := by
  obtain ⟨d, hcut, -, hbest⟩ := exists_best_division hi (two_le_length_of_places hne hplaces)
  obtain ⟨value, rest, hearlier⟩ := List.exists_cons_of_ne_nil d.earlier_ne
  exact ⟨d, value, rest, hearlier, d.innerBreaks_eq hcut hearlier,
    places_of_best_of_le hsorted hi hbest, places_of_best_of_ge hsorted hi hbest⟩

/-- Going back through descending values puts a break at every place, as far as breaks are asked
for; if more are asked for, the others are zero and the first break at a place is the least value. -/
theorem innerBreaks_spec (hsorted : values.Pairwise (· ≥ ·)) (hi : i < classes) (hne : values ≠ [])
    (later : List ℚ) :
    ∃ placed, innerBreaks i (stagesOf classes values) later =
        List.replicate (i - places values) 0 ++ placed ++ later ∧
      placed.length = min i (places values) ∧ placed.Pairwise (· ≤ ·) ∧
      (∀ b ∈ placed, b ∈ values) ∧
      (places values ≤ i → placed ≠ [] → placed.head? = values.getLast?) := by
  induction i generalizing values later with
  | zero => exact ⟨[], by rw [Nat.zero_sub]; rfl, by simp, .nil, nofun, fun _ h => absurd rfl h⟩
  | succ i ih =>
      by_cases hzero : places values = 0
      · obtain ⟨value, rfl⟩ := length_eq_one_of_places hne hzero
        refine ⟨[], ?_, by simp, .nil, nofun, fun _ h => absurd rfl h⟩
        rw [places_singleton, Nat.sub_zero, List.append_nil, innerBreaks.eq_def, stagesOf_cons,
          cutsOf_singleton]
        simp only [List.getElem?_replicate, if_pos hi]
        rfl
      obtain ⟨d, value, rest, hearlier, hstep, hfew, hmany⟩ :=
        exists_next_break hsorted hi hne hzero
      have hdescending := d.sorted_earlier hsorted
      obtain ⟨placed, hplaced, hlength, hordered, hmembers, hfirst⟩ :=
        ih hdescending (by omega) d.earlier_ne (value :: later)
      have hgreatest : ∀ b ∈ d.earlier, b ≤ value := by
        rw [hearlier] at hdescending ⊢
        exact List.forall_mem_cons.2 ⟨le_refl value, (List.pairwise_cons.1 hdescending).1⟩
      refine ⟨placed ++ [value], ?_, ?_, ?_, ?_, ?_⟩
      · rw [hstep, hplaced, show i - places d.earlier = i + 1 - places values by omega]
        simp
      · rw [List.length_append, hlength, List.length_singleton]
        omega
      · rw [List.pairwise_append]
        refine ⟨hordered, List.pairwise_singleton _ _, fun b hb last hlast => ?_⟩
        rw [List.mem_singleton.1 hlast]
        exact hgreatest b (hmembers b hb)
      · intro b hb
        rcases List.mem_append.1 hb with hb | hb
        · exact d.mem_of_mem_earlier (hmembers b hb)
        · rw [List.mem_singleton.1 hb]
          exact d.mem_of_mem_earlier (hearlier ▸ List.mem_cons_self)
      · intro hle _
        rw [← d.getLast?_earlier]
        rcases eq_or_ne placed [] with rfl | hplaced
        · have hnone : places d.earlier = 0 := by
            rw [List.length_nil] at hlength
            omega
          obtain ⟨only, honly⟩ := length_eq_one_of_places d.earlier_ne hnone
          obtain ⟨rfl, rfl⟩ := List.cons.inj (hearlier.symm.trans honly)
          rw [honly]
          rfl
        · rw [List.head?_append_of_ne_nil _ hplaced, hfirst (by omega) hplaced]

end GeoLayers.Classification
