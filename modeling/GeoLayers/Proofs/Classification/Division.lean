import GeoLayers.Proofs.Classification.Deviation

/-!
What the stages of natural breaks hold. For one class it is the cost of all values. For more classes
it is the best division of the values into a last class and the values before it: the cheapest one,
and of several the one that leaves the fewest values to the earlier classes. Values are listed with
the latest first, as the stages are.
-/

namespace GeoLayers.Classification

variable {classes : Nat}

/-- The stages of some values, of which the latest comes first. -/
def stagesOf (classes : Nat) : List ℚ → List (Stage ℚ)
  | [] => []
  | value :: earlier =>
    nextStage classes (stagesOf classes earlier) value :: stagesOf classes earlier

theorem stages_eq (classes : Nat) (values : List ℚ) :
    stages classes values = stagesOf classes values.reverse := by
  rw [stages, List.foldl_eq_foldr_reverse]
  induction values.reverse with
  | nil => rfl
  | cons value earlier ih => rw [List.foldr_cons, ih, stagesOf]

@[simp] theorem length_stagesOf (classes : Nat) (values : List ℚ) :
    (stagesOf classes values).length = values.length := by
  induction values with
  | nil => rfl
  | cons value earlier ih => rw [stagesOf, List.length_cons, List.length_cons, ih]

/-- What is left of the stages without those of the last class. -/
theorem drop_stagesOf (classes : Nat) (last earlier : List ℚ) :
    (stagesOf classes (last ++ earlier)).drop last.length = stagesOf classes earlier := by
  induction last with
  | nil => rfl
  | cons value last ih => rw [List.cons_append, stagesOf, List.length_cons, List.drop_succ_cons, ih]

/-- The cuts in the stage of the latest value. -/
def cutsOf (classes : Nat) : List ℚ → List (Cut ℚ)
  | [] => []
  | value :: earlier => (nextStage classes (stagesOf classes earlier) value).cuts

theorem stagesOf_cons (classes : Nat) (value : ℚ) (earlier : List ℚ) :
    stagesOf classes (value :: earlier) =
      ⟨value, cutsOf classes (value :: earlier)⟩ :: stagesOf classes earlier := by
  rw [stagesOf, cutsOf]
  congr 1
  rw [nextStage.eq_def]
  split <;> rfl

/-- The cost of some values in `i + 1` classes, as their stage has it. -/
def costOf (classes i : Nat) (values : List ℚ) : ℚ :=
  ((cutsOf classes values)[i]?.bind Cut.cost).getD 0

theorem cutsOf_singleton (classes : Nat) (value : ℚ) :
    cutsOf classes [value] = List.replicate classes ⟨some 0, 0⟩ := rfl

/-- A division of some values into a last class and the values before it. -/
structure Division (values : List ℚ) where
  last : List ℚ
  earlier : List ℚ
  last_ne : last ≠ []
  earlier_ne : earlier ≠ []
  parts : last ++ earlier = values

namespace Division

variable {values : List ℚ}

theorem length_parts (d : Division values) : d.last.length + d.earlier.length = values.length := by
  rw [← List.length_append, d.parts]

theorem two_le_length (d : Division values) : 2 ≤ values.length := by
  have hparts := d.length_parts
  have hlast := List.length_pos_iff.2 d.last_ne
  have hearlier := List.length_pos_iff.2 d.earlier_ne
  omega

theorem sorted_earlier (d : Division values) (h : values.Pairwise (· ≥ ·)) :
    d.earlier.Pairwise (· ≥ ·) :=
  (List.pairwise_append.1 (d.parts.symm ▸ h)).2.1

theorem mem_of_mem_earlier (d : Division values) {value : ℚ} (h : value ∈ d.earlier) :
    value ∈ values :=
  d.parts ▸ List.mem_append_right _ h

theorem getLast?_earlier (d : Division values) : d.earlier.getLast? = values.getLast? := by
  conv_rhs => rw [← d.parts, List.getLast?_append_of_ne_nil _ d.earlier_ne]

/-- A division is known by the number of values before the last class. -/
theorem eq_of_length {d e : Division values} (h : d.earlier.length = e.earlier.length) : d = e := by
  have hparts := List.append_inj' (d.parts.trans e.parts.symm) h
  cases d
  cases e
  simp only at hparts
  simp only [mk.injEq]
  exact hparts

/-- A value with others before it may be a class by itself. -/
def first (value : ℚ) {earlier : List ℚ} (h : earlier ≠ []) : Division (value :: earlier) :=
  ⟨[value], earlier, by simp, h, rfl⟩

/-- The last class goes on by a value. -/
def extend (value : ℚ) (d : Division values) : Division (value :: values) :=
  ⟨value :: d.last, d.earlier, by simp, d.earlier_ne, by rw [List.cons_append, d.parts]⟩

theorem eq_first_or_extend {value : ℚ} (e : Division (value :: values)) :
    (∃ h, e = first value h) ∨ ∃ d : Division values, e = d.extend value := by
  obtain ⟨last, earlier, hlast, hearlier, hparts⟩ := e
  obtain ⟨head, tail, rfl⟩ := List.exists_cons_of_ne_nil hlast
  rw [List.cons_append, List.cons.injEq] at hparts
  obtain ⟨rfl, rfl⟩ := hparts
  rcases eq_or_ne tail [] with rfl | htail
  · exact .inl ⟨hearlier, rfl⟩
  · exact .inr ⟨⟨tail, earlier, htail, hearlier, rfl⟩, rfl⟩

/-- The latest value is in the last class. -/
theorem mem_last {value : ℚ} (e : Division (value :: values)) : value ∈ e.last := by
  rcases e.eq_first_or_extend with ⟨_, rfl⟩ | ⟨d, rfl⟩
  · exact List.mem_cons_self
  · exact List.mem_cons_self

/-- The cost of a division if the earlier values are in `i + 1` classes. -/
def cost (classes i : Nat) (d : Division values) : ℚ :=
  deviation d.last + costOf classes i d.earlier

/-- How a stage holds a division. -/
def cut (classes i : Nat) (d : Division values) : Cut ℚ :=
  ⟨some (d.cost classes i), d.earlier.length⟩

/-- A division is at least as good as another if it costs less, or the same and leaves no more
values to the earlier classes. -/
structure NoWorse (classes i : Nat) (d e : Division values) : Prop where
  cost_le : d.cost classes i ≤ e.cost classes i
  length_le : e.cost classes i ≤ d.cost classes i → d.earlier.length ≤ e.earlier.length

end Division

/-- The best cut that a search has found when it has tried the divisions with more than `bound`
values before the last class. -/
inductive BestAbove (classes i bound : Nat) (values : List ℚ) : Cut ℚ → Prop
  | none (untried : ∀ e : Division values, e.earlier.length ≤ bound) :
    BestAbove classes i bound values Cut.unknown
  | found (d : Division values)
    (best : ∀ e : Division values, bound < e.earlier.length → d.NoWorse classes i e) :
    BestAbove classes i bound values (d.cut classes i)

/-- The next division is tried: of two that cost the same the later one is taken. -/
theorem BestAbove.improve {i bound : Nat} {values : List ℚ} {cut : Cut ℚ}
    (h : BestAbove classes i (bound + 1) values cut) (d : Division values)
    (hd : d.earlier.length = bound + 1) :
    BestAbove classes i bound values (cut.improve (d.cost classes i) (bound + 1)) := by
  have htried {e : Division values} (he : bound < e.earlier.length) :
      bound + 1 < e.earlier.length ∨ e = d := by
    rcases Nat.lt_or_eq_of_le (Nat.succ_le_of_lt he) with hlt | heq
    · exact .inl hlt
    · exact .inr (Division.eq_of_length (heq.symm.trans hd.symm))
  have htaken : (⟨some (d.cost classes i), bound + 1⟩ : Cut ℚ) = d.cut classes i := by
    rw [Division.cut, hd]
  cases h with
  | none untried =>
      have himprove : Cut.unknown.improve (d.cost classes i) (bound + 1) = d.cut classes i := htaken
      rw [himprove]
      refine .found d fun e he => ?_
      rcases htried he with hlt | rfl
      · exact absurd (untried e) (Nat.not_le.2 hlt)
      · exact ⟨le_refl _, fun _ => le_refl _⟩
  | found c best =>
      by_cases hle : d.cost classes i ≤ c.cost classes i
      · have himprove :
            (c.cut classes i).improve (d.cost classes i) (bound + 1) = d.cut classes i := by
          rw [Cut.improve, if_pos (by simpa [Division.cut, Scalar.le] using hle), htaken]
        rw [himprove]
        refine .found d fun e he => ?_
        rcases htried he with hlt | rfl
        · exact ⟨hle.trans (best e hlt).cost_le, fun _ => by omega⟩
        · exact ⟨le_refl _, fun _ => le_refl _⟩
      · have himprove :
            (c.cut classes i).improve (d.cost classes i) (bound + 1) = c.cut classes i := by
          rw [Cut.improve, if_neg (by simpa [Division.cut, Scalar.le] using hle)]
        rw [himprove]
        refine .found c fun e he => ?_
        rcases htried he with hlt | rfl
        · exact best e hlt
        · exact ⟨(not_le.1 hle).le, fun hge => absurd hge hle⟩

/-- A stage is complete if it has a cut with a cost for every number of classes. -/
structure Complete (classes : Nat) (cuts : List (Cut ℚ)) : Prop where
  length_eq : cuts.length = classes
  known : ∀ cut ∈ cuts, ∃ cost, cut.cost = some cost

/-- What a search comes to that has the values `last` in the last class and goes back through the
others. -/
theorem searchCuts_spec (last earlier : List ℚ) (hlast : last ≠ []) (cuts : List (Cut ℚ))
    (hcomplete : ∀ stage ∈ stagesOf classes earlier, Complete classes stage.cuts)
    (hlength : cuts.length = classes - 1)
    (hbest : ∀ i cut, cuts[i]? = some cut →
      BestAbove classes i earlier.length (last ++ earlier) cut) :
    ∃ found, searchCuts (last.foldl Spread.add Spread.empty) earlier.length
        (stagesOf classes earlier) cuts = ⟨some (deviation (last ++ earlier)), 0⟩ :: found ∧
      found.length = classes - 1 ∧
      ∀ i cut, found[i]? = some cut → BestAbove classes i 0 (last ++ earlier) cut := by
  induction earlier generalizing last cuts with
  | nil =>
      refine ⟨cuts, ?_, hlength, hbest⟩
      rw [List.append_nil]
      rfl
  | cons value earlier ih =>
      rw [stagesOf_cons, List.forall_mem_cons] at hcomplete
      obtain ⟨hstage, hearlier⟩ := hcomplete
      have hparts : last ++ value :: earlier = (last ++ [value]) ++ earlier := by simp
      rw [stagesOf_cons, searchCuts, hparts,
        show (last.foldl Spread.add Spread.empty).add value =
          (last ++ [value]).foldl Spread.add Spread.empty by simp]
      refine ih (last ++ [value]) (by simp) _ hearlier ?_ ?_
      · rw [List.length_zipWith, hlength, hstage.length_eq]
        omega
      · intro i cut hcut
        obtain ⟨old, previous, hold, hprevious, rfl⟩ := List.getElem?_zipWith_eq_some.1 hcut
        obtain ⟨cost, hcost⟩ := hstage.known previous (List.mem_of_getElem? hprevious)
        let d : Division (last ++ value :: earlier) :=
          ⟨last, value :: earlier, hlast, by simp, rfl⟩
        have hd : (last.foldl Spread.add Spread.empty).cost + cost = d.cost classes i := by
          rw [Division.cost, costOf, hprevious, Option.bind_some, hcost]
          rfl
        rw [hcost, ← hparts]
        dsimp only
        rw [hd]
        exact (hbest i old hold).improve d rfl

/-- The stage of the latest of several values is searched from the last class of it alone. -/
theorem cutsOf_eq_searchCuts (classes : Nat) (value : ℚ) {earlier : List ℚ} (hearlier : earlier ≠ []) :
    cutsOf classes (value :: earlier) =
      searchCuts (Spread.empty.add value) earlier.length (stagesOf classes earlier)
        (List.replicate (classes - 1) Cut.unknown) := by
  obtain ⟨next, others, rfl⟩ := List.exists_cons_of_ne_nil hearlier
  rw [cutsOf, nextStage, length_stagesOf]
  rw [stagesOf]
  nofun

/-- What the stage of the latest of several values holds. -/
theorem cutsOf_cons (value : ℚ) {earlier : List ℚ} (hearlier : earlier ≠ [])
    (hcomplete : ∀ stage ∈ stagesOf classes earlier, Complete classes stage.cuts) :
    ∃ found, cutsOf classes (value :: earlier) = ⟨some (deviation (value :: earlier)), 0⟩ :: found ∧
      found.length = classes - 1 ∧
      ∀ i cut, found[i]? = some cut → BestAbove classes i 0 (value :: earlier) cut := by
  rw [cutsOf_eq_searchCuts classes value hearlier]
  refine searchCuts_spec [value] earlier (by simp) _ hcomplete List.length_replicate ?_
  intro i cut hcut
  rw [(List.mem_replicate.1 (List.mem_of_getElem? hcut)).2]
  refine .none fun e => ?_
  have hlength := e.length_parts
  have hlast := List.length_pos_iff.2 e.last_ne
  rw [List.length_append, List.length_singleton] at hlength
  omega

/-- Every stage is complete. -/
theorem complete_of_mem_stagesOf (hclasses : 1 ≤ classes) {values : List ℚ} :
    ∀ stage ∈ stagesOf classes values, Complete classes stage.cuts := by
  induction values with
  | nil => nofun
  | cons value earlier ih =>
      rw [stagesOf_cons, List.forall_mem_cons]
      refine ⟨?_, ih⟩
      rcases eq_or_ne earlier [] with rfl | hearlier
      · rw [cutsOf_singleton]
        exact ⟨List.length_replicate, fun cut hcut => ⟨0, (List.mem_replicate.1 hcut).2 ▸ rfl⟩⟩
      · obtain ⟨found, hcuts, hlength, hbest⟩ := cutsOf_cons value hearlier ih
        rw [hcuts]
        refine ⟨by rw [List.length_cons, hlength]; omega, ?_⟩
        refine List.forall_mem_cons.2 ⟨⟨_, rfl⟩, fun cut hcut => ?_⟩
        obtain ⟨i, hi⟩ := List.mem_iff_getElem?.1 hcut
        cases hbest i cut hi with
        | none untried =>
            have hpos := List.length_pos_iff.2 hearlier
            exact absurd (untried (.first value hearlier)) (Nat.not_le.2 hpos)
        | found d _ => exact ⟨_, rfl⟩

section Stage

variable {values : List ℚ} {i : Nat}

/-- In one class, values cost what they deviate from their mean. -/
theorem costOf_zero (hclasses : 1 ≤ classes) (hne : values ≠ []) :
    costOf classes 0 values = deviation values := by
  obtain ⟨value, earlier, rfl⟩ := List.exists_cons_of_ne_nil hne
  rcases eq_or_ne earlier [] with rfl | hearlier
  · obtain ⟨n, rfl⟩ : ∃ n, classes = n + 1 := ⟨classes - 1, by omega⟩
    rw [deviation_singleton]
    rfl
  · obtain ⟨found, hcuts, -, -⟩ :=
      cutsOf_cons value hearlier (complete_of_mem_stagesOf hclasses)
    rw [costOf, hcuts]
    rfl

theorem costOf_singleton (hi : i < classes) (value : ℚ) : costOf classes i [value] = 0 := by
  rw [costOf, cutsOf_singleton, List.getElem?_replicate, if_pos hi]
  rfl

/-- Every cut leaves a value to the last class. -/
theorem before_lt_length (hclasses : 1 ≤ classes) (hne : values ≠ []) {cut : Cut ℚ}
    (h : cut ∈ cutsOf classes values) : cut.before < values.length := by
  have hpos := List.length_pos_iff.2 hne
  obtain ⟨value, earlier, rfl⟩ := List.exists_cons_of_ne_nil hne
  rcases eq_or_ne earlier [] with rfl | hearlier
  · rw [cutsOf_singleton] at h
    rw [(List.mem_replicate.1 h).2]
    exact hpos
  · obtain ⟨found, hcuts, -, hbest⟩ := cutsOf_cons value hearlier (complete_of_mem_stagesOf hclasses)
    rw [hcuts] at h
    rcases List.mem_cons.1 h with rfl | hmem
    · exact hpos
    · obtain ⟨i, hi⟩ := List.mem_iff_getElem?.1 hmem
      cases hbest i cut hi with
      | none _ => exact hpos
      | found d _ =>
          have hparts := d.length_parts
          have hlast := List.length_pos_iff.2 d.last_ne
          change d.earlier.length < _
          omega

/-- In several classes, several values are held in the best division. -/
theorem exists_best_division (hi : i + 1 < classes) (hlength : 2 ≤ values.length) :
    ∃ d : Division values, (cutsOf classes values)[i + 1]? = some (d.cut classes i) ∧
      costOf classes (i + 1) values = d.cost classes i ∧ ∀ e, d.NoWorse classes i e := by
  match values, hlength with
  | value :: next :: others, _ =>
      have hearlier : next :: others ≠ [] := by simp
      have hclasses : 1 ≤ classes := by omega
      obtain ⟨found, hcuts, hfound, hbest⟩ :=
        cutsOf_cons value hearlier (complete_of_mem_stagesOf hclasses)
      obtain ⟨cut, hcut⟩ : ∃ cut, found[i]? = some cut :=
        ⟨_, List.getElem?_eq_getElem (by omega : i < found.length)⟩
      have hget : (cutsOf classes (value :: next :: others))[i + 1]? = some cut := by
        rw [hcuts, List.getElem?_cons_succ, hcut]
      cases hbest i cut hcut with
      | none untried =>
          exact absurd (untried (.first value hearlier)) (by simp [Division.first])
      | found d best =>
          refine ⟨d, hget, ?_, fun e => best e (List.length_pos_iff.2 e.earlier_ne)⟩
          rw [costOf, hget]
          rfl

end Stage

end GeoLayers.Classification
