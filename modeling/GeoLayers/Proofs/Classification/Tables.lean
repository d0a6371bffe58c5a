import GeoLayers.Proofs.Classification.Natural
import Mathlib.Algebra.Order.Monoid.Unbundled.WithTop

/-!
Natural breaks by tables. The stages of the search are kept as the rows of a table: a row for each
value and a column for each number of classes, with an unused row and column in front. Every access
is checked here, so that a search that gives breaks has stayed inside the table, the values and the
breaks; it gives those that the stages give.
-/

namespace GeoLayers.Classification

/-- A table with a fixed number of rows and columns. -/
structure Table (β : Type) where
  rows : Nat
  columns : Nat
  entry : Nat → Nat → β

namespace Table

variable {β : Type}

def get? (t : Table β) (row column : Nat) : Option β :=
  if row < t.rows ∧ column < t.columns then some (t.entry row column) else none

/-- The table with another entry at one place. -/
def put (t : Table β) (row column : Nat) (x : β) : Table β :=
  { t with entry := fun i j => if i = row ∧ j = column then x else t.entry i j }

def set? (t : Table β) (row column : Nat) (x : β) : Option (Table β) :=
  if row < t.rows ∧ column < t.columns then some (t.put row column x) else none

theorem get?_eq_some {t : Table β} {row column : Nat} (hrow : row < t.rows)
    (hcolumn : column < t.columns) : t.get? row column = some (t.entry row column) :=
  if_pos ⟨hrow, hcolumn⟩

theorem set?_eq_some {t : Table β} {row column : Nat} (hrow : row < t.rows)
    (hcolumn : column < t.columns) (x : β) : t.set? row column x = some (t.put row column x) :=
  if_pos ⟨hrow, hcolumn⟩

theorem put_self (t : Table β) (row column : Nat) : t.put row column (t.entry row column) = t := by
  have hentry : (t.put row column (t.entry row column)).entry = t.entry := by
    funext i j
    simp only [put]
    split
    · next h => rw [h.1, h.2]
    · rfl
  exact congrArg (Table.mk t.rows t.columns) hentry

end Table

/-- What the search has for some values and a number of classes: the number of the first value of
the last class, counted from one, and the cost. -/
structure Cell where
  start : Nat
  cost : WithTop ℚ

/-- The best of the classes that were tried and those that have `before` values in the earlier ones. -/
def Cell.improve (found earlier : Cell) (cost : ℚ) (before : Nat) : Cell :=
  if cost + earlier.cost ≤ found.cost then ⟨before + 1, cost + earlier.cost⟩ else found

section Search

variable (values : List ℚ) (classes : Nat)

/-- Tries a last class after `before` values, which are in one class fewer. -/
def tryStart (row before : Nat) (cost : ℚ) (t : Table Cell) (column : Nat) : Option (Table Cell) := do
  let earlier ← t.get? before (column - 1)
  let found ← t.get? row column
  if cost + earlier.cost ≤ found.cost then t.set? row column ⟨before + 1, cost + earlier.cost⟩
  else some t

/-- Tries all last classes of a row, from the shortest one on. -/
def searchRow (row : Nat) : Nat → Spread ℚ → Table Cell → Option (Spread ℚ × Table Cell)
  | 0, spread, t => some (spread, t)
  | before + 1, spread, t => do
    let value ← values[before]?
    let spread := spread.add value
    let t ← if before = 0 then some t
      else (List.range' 2 (classes - 1)).foldlM (tryStart row before spread.cost) t
    searchRow row before spread t

/-- Fills a row. All values together are in one class. -/
def fillRow (t : Table Cell) (row : Nat) : Option (Table Cell) := do
  let (spread, t) ← searchRow values classes row row Spread.empty t
  t.set? row 1 ⟨1, spread.cost⟩

/-- The table of all values. -/
def fillTable : Option (Table Cell) := do
  let unknown : Table Cell := ⟨values.length + 1, classes + 1, fun _ _ => ⟨0, ⊤⟩⟩
  let first ← (List.range' 1 classes).foldlM (fun t column => t.set? 1 column ⟨1, 0⟩) unknown
  (List.range' 2 (values.length - 1)).foldlM (fillRow values classes) first

/-- Replaces an item of a list. -/
def setAt? (items : List ℚ) (i : Nat) (x : ℚ) : Option (List ℚ) :=
  if i < items.length then some (items.set i x) else none

/-- Goes back through the table from a number of classes and a number of values. -/
def goBack (t : Table Cell) : Nat → Nat → List ℚ → Option (List ℚ)
  | 0, _, breaks | 1, _, breaks => some breaks
  | column + 2, row, breaks => do
    let cell ← t.get? row (column + 2)
    if cell.start < 2 then some breaks
    else
      let value ← values[cell.start - 2]?
      let breaks ← setAt? breaks (column + 1) value
      goBack t (column + 1) (cell.start - 1) breaks

end Search

/-- Natural breaks by a table; none if some access is out of bounds. -/
def tableBreaks (values : List ℚ) (count : Nat) : Option (List ℚ) :=
  if values.length = 0 then some []
  else do
    let classes := classCount values count
    let t ← fillTable values classes
    let first ← values[0]?
    let last ← values[values.length - 1]?
    let breaks ← setAt? (List.replicate (classes + 1) 0) 0 first
    let breaks ← setAt? breaks classes last
    goBack values t classes values.length breaks

/-- A table of a fixed size. -/
structure Table.Sized {β : Type} (t : Table β) (rows columns : Nat) : Prop where
  rows_eq : t.rows = rows
  columns_eq : t.columns = columns

/-- A cell has what a cut has. A start of zero or one is that of the first value. -/
structure Cell.Holds (cell : Cell) (cut : Cut ℚ) : Prop where
  cost_eq : cell.cost = match cut.cost with | some cost => (cost : WithTop ℚ) | none => ⊤
  start_eq : cell.start - 1 = cut.before

theorem Cell.holds_unknown : Cell.Holds ⟨0, ⊤⟩ Cut.unknown := ⟨rfl, rfl⟩

/-- A cell is improved as the cut that it has. -/
theorem Cell.Holds.improve {found earlier : Cell} {cut previous : Cut ℚ} (h : found.Holds cut)
    (hearlier : earlier.Holds previous) {cost : ℚ} (hcost : previous.cost = some cost) (last : ℚ)
    (before : Nat) :
    (found.improve earlier last before).Holds (cut.improve (last + cost) before) := by
  have hcandidate : (last : WithTop ℚ) + earlier.cost = ((last + cost : ℚ) : WithTop ℚ) := by
    rw [hearlier.cost_eq, hcost]
    rfl
  have hiff : (last : WithTop ℚ) + earlier.cost ≤ found.cost ↔
      cut.cost.all (Scalar.le (last + cost) ·) = true := by
    rw [hcandidate, h.cost_eq]
    cases cut.cost with
    | none => simp
    | some c =>
        change ((last + cost : ℚ) : WithTop ℚ) ≤ (c : WithTop ℚ) ↔ decide (last + cost ≤ c) = true
        rw [WithTop.coe_le_coe, decide_eq_true_iff]
  rw [Cell.improve, Cut.improve]
  by_cases hle : (last : WithTop ℚ) + earlier.cost ≤ found.cost
  · rw [if_pos hle, if_pos (hiff.1 hle)]
    exact ⟨hcandidate, rfl⟩
  · rw [if_neg hle, if_neg fun h => hle (hiff.2 h)]
    exact h

/-- A row that is changed column by column, each by what stands there and before it in an earlier
row. -/
theorem foldlM_puts (step : Table Cell → Nat → Option (Table Cell)) (g : Cell → Cell → Cell)
    {row before rows columns : Nat} (hbefore : before < row) (n column : Nat)
    (hstep : ∀ t j, t.Sized rows columns → column ≤ j → j < column + n →
      step t j = some (t.put row j (g (t.entry row j) (t.entry before (j - 1)))))
    {t : Table Cell} (hsized : t.Sized rows columns) :
    ∃ t' : Table Cell, (List.range' column n).foldlM step t = some t' ∧ t'.Sized rows columns ∧
      ∀ i j, t'.entry i j = if i = row ∧ column ≤ j ∧ j < column + n
        then g (t.entry i j) (t.entry before (j - 1)) else t.entry i j := by
  induction n generalizing t column with
  | zero =>
      refine ⟨t, rfl, hsized, fun i j => (if_neg ?_).symm⟩
      omega
  | succ n ih =>
      let next := t.put row column (g (t.entry row column) (t.entry before (column - 1)))
      have hnext : step t column = some next := hstep t column hsized (le_refl _) (by omega)
      have hother {i j : Nat} (h : i ≠ row ∨ j ≠ column) : next.entry i j = t.entry i j :=
        if_neg (by omega)
      have hnextSized : next.Sized rows columns := ⟨hsized.rows_eq, hsized.columns_eq⟩
      obtain ⟨t', hfold, hsized', hentry⟩ :=
        ih (column + 1) (fun u j hu hj hlt => hstep u j hu (by omega) (by omega)) hnextSized
      refine ⟨t', ?_, hsized', fun i j => ?_⟩
      · rw [List.range'_succ, List.foldlM_cons, hnext]
        exact hfold
      · rw [hentry]
        by_cases hhere : i = row ∧ j = column
        · obtain ⟨rfl, rfl⟩ := hhere
          rw [if_neg (by omega), if_pos (by omega)]
          exact if_pos ⟨rfl, rfl⟩
        · have hearlier : next.entry before (j - 1) = t.entry before (j - 1) := hother (by omega)
          rw [hearlier, hother (by omega)]
          exact if_congr (by omega) rfl rfl

theorem tryStart_eq {t : Table Cell} {row before column : Nat} {cost : ℚ} (hrow : row < t.rows)
    (hbefore : before < t.rows) (hcolumn : column < t.columns) :
    tryStart row before cost t column = some (t.put row column
      ((t.entry row column).improve (t.entry before (column - 1)) cost before)) := by
  rw [tryStart, Table.get?_eq_some hbefore (by omega), Table.get?_eq_some hrow hcolumn]
  simp only [Option.bind_eq_bind, Option.bind_some, Cell.improve]
  split
  · exact Table.set?_eq_some hrow hcolumn _
  · rw [Table.put_self]

/-- A row has some cuts from a column on. -/
def Table.HoldsFrom (t : Table Cell) (row column : Nat) (cuts : List (Cut ℚ)) : Prop :=
  ∀ i cut, cuts[i]? = some cut → (t.entry row (column + i)).Holds cut

theorem Table.HoldsFrom.congr {t t' : Table Cell} {row column : Nat} {cuts : List (Cut ℚ)}
    (h : t.HoldsFrom row column cuts) (heq : ∀ j, t'.entry row j = t.entry row j) :
    t'.HoldsFrom row column cuts := fun i cut hcut => heq _ ▸ h i cut hcut

/-- The first values, the latest of them first. -/
def upTo (values : List ℚ) (n : Nat) : List ℚ := (values.take n).reverse

section Search

variable {values : List ℚ} {classes : Nat}

theorem upTo_succ {n : Nat} {value : ℚ} (h : values[n]? = some value) :
    upTo values (n + 1) = value :: upTo values n := by
  rw [upTo, List.take_add_one, h, Option.toList_some, List.reverse_concat, upTo]

theorem length_upTo {n : Nat} (h : n ≤ values.length) : (upTo values n).length = n := by
  rw [upTo, List.length_reverse, List.length_take, Nat.min_eq_left h]

theorem exists_upTo_succ {n : Nat} (h : n < values.length) :
    ∃ value, values[n]? = some value ∧ upTo values (n + 1) = value :: upTo values n :=
  ⟨_, List.getElem?_eq_getElem h, upTo_succ (List.getElem?_eq_getElem h)⟩

theorem complete_cutsOf_upTo (hclasses : 1 ≤ classes) {n : Nat} (h : n < values.length) :
    Complete classes (cutsOf classes (upTo values (n + 1))) := by
  obtain ⟨value, -, hstage⟩ := exists_upTo_succ h
  have hall : ∀ stage ∈ stagesOf classes (value :: upTo values n), Complete classes stage.cuts :=
    complete_of_mem_stagesOf hclasses
  rw [stagesOf_cons] at hall
  rw [hstage]
  exact (List.forall_mem_cons.1 hall).1

/-- The table has the stages of the values before a row. -/
def HoldsUpTo (values : List ℚ) (classes : Nat) (t : Table Cell) (last : Nat) : Prop :=
  ∀ row, 1 ≤ row → row ≤ last → t.HoldsFrom row 1 (cutsOf classes (upTo values row))

/-- What trying the last classes after some values does to a row. -/
theorem holds_tryStarts {t : Table Cell} {row before : Nat} {cuts previous : List (Cut ℚ)} (cost : ℚ)
    (hsized : t.Sized (values.length + 1) (classes + 1)) (hrow : row ≤ values.length)
    (hbefore : before < row) (hclasses : 1 ≤ classes) (hcuts : t.HoldsFrom row 2 cuts)
    (hprevious : t.HoldsFrom before 1 previous) (hcomplete : Complete classes previous) :
    ∃ t' : Table Cell, (List.range' 2 (classes - 1)).foldlM (tryStart row before cost) t = some t' ∧
      t'.Sized (values.length + 1) (classes + 1) ∧
      (∀ i, i ≠ row → ∀ j, t'.entry i j = t.entry i j) ∧
      (cuts.length = classes - 1 → t'.HoldsFrom row 2 (List.zipWith (fun cut previous =>
        match previous.cost with
        | some earlier => cut.improve (cost + earlier) before
        | none => cut) cuts previous)) := by
  obtain ⟨t', hfold, hsized', hentry⟩ := foldlM_puts (tryStart row before cost)
    (fun found earlier => found.improve earlier cost before) hbefore (classes - 1) 2
    (fun u j hu hj hlt => tryStart_eq (by rw [hu.rows_eq]; omega) (by rw [hu.rows_eq]; omega)
      (by rw [hu.columns_eq]; omega)) hsized
  refine ⟨t', hfold, hsized', fun i hi j => ?_, fun hlength i cut hcut => ?_⟩
  · rw [hentry, if_neg (by omega)]
  · obtain ⟨found, earlier, hfound, hearlier, rfl⟩ := List.getElem?_zipWith_eq_some.1 hcut
    obtain ⟨known, hknown⟩ := hcomplete.known earlier (List.mem_of_getElem? hearlier)
    have hi : i < classes - 1 := hlength ▸ (List.getElem?_eq_some_iff.1 hfound).1
    have hstart : 2 + i - 1 = 1 + i := by omega
    rw [hentry, if_pos ⟨rfl, by omega, by omega⟩, hknown, hstart]
    exact (hcuts i found hfound).improve (hprevious i earlier hearlier) hknown cost before

/-- A search of a row goes as the search of its stage does. -/
theorem searchRow_spec {t : Table Cell} {row before : Nat} {cuts : List (Cut ℚ)} {value : ℚ}
    (spread : Spread ℚ) (hsized : t.Sized (values.length + 1) (classes + 1))
    (hrow : row ≤ values.length) (hbefore : before < row) (hclasses : 1 ≤ classes) (hvalue : values[before]? = some value)
    (hrows : HoldsUpTo values classes t before) (hlength : cuts.length = classes - 1)
    (hcuts : t.HoldsFrom row 2 cuts) :
    ∃ spread' t' found, searchRow values classes row (before + 1) spread t = some (spread', t') ∧
      t'.Sized (values.length + 1) (classes + 1) ∧
      (∀ i, i ≠ row → ∀ j, t'.entry i j = t.entry i j) ∧
      searchCuts (spread.add value) before (stagesOf classes (upTo values before)) cuts =
        ⟨some spread'.cost, 0⟩ :: found ∧
      t'.HoldsFrom row 2 found := by
  induction before generalizing t spread cuts value with
  | zero =>
      refine ⟨spread.add value, t, cuts, ?_, hsized, fun _ _ _ => rfl, rfl, hcuts⟩
      simp [searchRow, hvalue]
  | succ before ih =>
      obtain ⟨earlier, hearlier, hstage⟩ := exists_upTo_succ (show before < values.length by omega)
      have hcomplete : Complete classes (cutsOf classes (upTo values (before + 1))) :=
        complete_cutsOf_upTo hclasses (by omega)
      have hlengthOf := hcomplete.length_eq
      obtain ⟨u, hfold, hsized', hsame, hnext⟩ := holds_tryStarts (spread.add value).cost hsized hrow
        hbefore hclasses hcuts (hrows (before + 1) (by omega) (le_refl _)) hcomplete
      have hrows' : HoldsUpTo values classes u before := fun r hr hle =>
        (hrows r hr (by omega)).congr fun j => hsame r (by omega) j
      obtain ⟨spread', t', found, hsearch, hsized'', hsame', hcutsOf, hfound⟩ :=
        ih (spread.add value) hsized' (by omega) hearlier hrows'
          (by rw [List.length_zipWith]; omega) (hnext hlength)
      refine ⟨spread', t', found, ?_, hsized'', fun i hi j => (hsame' i hi j).trans (hsame i hi j),
        ?_, hfound⟩
      · rw [searchRow, hvalue]
        simp only [Option.bind_eq_bind, Option.bind_some]
        rw [if_neg (by omega), hfold]
        exact hsearch
      · rw [← hcutsOf, hstage, stagesOf_cons, searchCuts, Nat.add_sub_cancel]
        congr 2
        funext cut previous
        cases previous.cost <;> rfl

/-- A row that was unknown has the stage of its value when it is filled. -/
theorem fillRow_spec {t : Table Cell} {row : Nat}
    (hsized : t.Sized (values.length + 1) (classes + 1)) (hrow : row + 2 ≤ values.length)
    (hclasses : 1 ≤ classes) (hrows : HoldsUpTo values classes t (row + 1))
    (hunknown : ∀ j, t.entry (row + 2) j = ⟨0, ⊤⟩) :
    ∃ t', fillRow values classes t (row + 2) = some t' ∧
      t'.Sized (values.length + 1) (classes + 1) ∧ HoldsUpTo values classes t' (row + 2) ∧
      ∀ i, i ≠ row + 2 → ∀ j, t'.entry i j = t.entry i j := by
  obtain ⟨value, hvalue⟩ : ∃ value, values[row + 1]? = some value :=
    ⟨_, List.getElem?_eq_getElem (by omega)⟩
  have hcuts : t.HoldsFrom (row + 2) 2 (List.replicate (classes - 1) Cut.unknown) := by
    intro i cut hcut
    rw [hunknown, (List.mem_replicate.1 (List.mem_of_getElem? hcut)).2]
    exact Cell.holds_unknown
  obtain ⟨spread, u, found, hsearch, hsized', hsame, hcutsOf, hfound⟩ :=
    searchRow_spec Spread.empty hsized hrow (Nat.lt_succ_self _) hclasses hvalue hrows
      List.length_replicate hcuts
  have hstage : cutsOf classes (upTo values (row + 2)) = ⟨some spread.cost, 0⟩ :: found := by
    have hlength := length_upTo (show row + 1 ≤ values.length by omega)
    have hne : upTo values (row + 1) ≠ [] := List.ne_nil_of_length_pos (by omega)
    rw [upTo_succ hvalue, cutsOf_eq_searchCuts classes value hne, hlength, hcutsOf]
  have hother {i j : Nat} (h : i ≠ row + 2 ∨ j ≠ 1) :
      (u.put (row + 2) 1 ⟨1, spread.cost⟩).entry i j = u.entry i j := if_neg (by omega)
  refine ⟨u.put (row + 2) 1 ⟨1, spread.cost⟩, ?_, ⟨hsized'.rows_eq, hsized'.columns_eq⟩,
    fun r hr hle => ?_, fun i hi j => (hother (.inl hi)).trans (hsame i hi j)⟩
  · rw [fillRow, hsearch]
    exact Table.set?_eq_some (by rw [hsized'.rows_eq]; omega) (by rw [hsized'.columns_eq]; omega) _
  · rcases Nat.lt_or_eq_of_le hle with hlt | rfl
    · exact (hrows r hr (by omega)).congr fun j =>
        (hother (.inl (by omega))).trans (hsame r (by omega) j)
    · rw [hstage]
      intro i cut hcut
      cases i with
      | zero =>
          obtain rfl := Option.some.inj hcut
          have hhere : (u.put (row + 2) 1 ⟨1, spread.cost⟩).entry (row + 2) 1 = ⟨1, spread.cost⟩ :=
            if_pos ⟨rfl, rfl⟩
          rw [Nat.add_zero, hhere]
          exact ⟨rfl, rfl⟩
      | succ i =>
          have hcolumn : 1 + (i + 1) = 2 + i := by omega
          rw [hcolumn, hother (.inr (by omega))]
          exact hfound i cut hcut

/-- The stage of one value has no cost in any class. -/
theorem holdsUpTo_one {t : Table Cell} (hne : values ≠ [])
    (hfirst : ∀ j, 1 ≤ j → j < 1 + classes → t.entry 1 j = ⟨1, 0⟩) : HoldsUpTo values classes t 1 := by
  intro row hpos hle
  obtain rfl : row = 1 := by omega
  obtain ⟨value, -, hstage⟩ := exists_upTo_succ (List.length_pos_iff.2 hne)
  have hcuts : cutsOf classes (upTo values 1) = List.replicate classes ⟨some 0, 0⟩ := by
    rw [hstage]
    exact cutsOf_singleton classes value
  intro i cut hcut
  rw [hcuts] at hcut
  have hi : i < classes := by simpa using (List.getElem?_eq_some_iff.1 hcut).1
  rw [hfirst (1 + i) (by omega) (by omega), (List.mem_replicate.1 (List.mem_of_getElem? hcut)).2]
  exact ⟨rfl, rfl⟩

/-- The rows are filled one by one, and those that are still to come stay unknown. -/
theorem fillRows_spec {first : Table Cell} (hsized : first.Sized (values.length + 1) (classes + 1))
    (hclasses : 1 ≤ classes) (hholds : HoldsUpTo values classes first 1)
    (hunknown : ∀ i, 1 < i → ∀ j, first.entry i j = ⟨0, ⊤⟩) {n : Nat} (hn : n + 1 ≤ values.length) :
    ∃ t, (List.range' 2 n).foldlM (fillRow values classes) first = some t ∧
      t.Sized (values.length + 1) (classes + 1) ∧ HoldsUpTo values classes t (n + 1) ∧
      ∀ i, n + 1 < i → ∀ j, t.entry i j = ⟨0, ⊤⟩ := by
  induction n with
  | zero => exact ⟨first, rfl, hsized, hholds, hunknown⟩
  | succ n ih =>
      obtain ⟨t, hfold, hsized, hholds, hlater⟩ := ih (by omega)
      obtain ⟨t', hfill, hsized', hholds', hsame⟩ := fillRow_spec hsized (show n + 2 ≤ _ by omega)
        hclasses hholds (hlater (n + 2) (by omega))
      refine ⟨t', ?_, hsized', hholds', fun i hi j => ?_⟩
      · rw [List.range'_concat, List.foldlM_append, hfold]
        simpa [Nat.add_comm] using hfill
      · rw [hsame i (by omega), hlater i (by omega)]

/-- The table has the stages of all values. -/
theorem fillTable_spec (hne : values ≠ []) (hclasses : 1 ≤ classes) :
    ∃ t, fillTable values classes = some t ∧ t.Sized (values.length + 1) (classes + 1) ∧
      HoldsUpTo values classes t values.length := by
  have hpos := List.length_pos_iff.2 hne
  let unknown : Table Cell := ⟨values.length + 1, classes + 1, fun _ _ => ⟨0, ⊤⟩⟩
  have hunknown : unknown.Sized (values.length + 1) (classes + 1) := ⟨rfl, rfl⟩
  obtain ⟨first, hfirst, hsized, hentry⟩ := foldlM_puts (fun t column => t.set? 1 column ⟨1, 0⟩)
    (fun _ _ => ⟨1, 0⟩) Nat.zero_lt_one classes 1
    (fun u j hu hj hlt => Table.set?_eq_some (by rw [hu.rows_eq]; omega)
      (by rw [hu.columns_eq]; omega) _) hunknown
  have hone : HoldsUpTo values classes first 1 := holdsUpTo_one hne fun j hj hlt => by
    rw [hentry, if_pos ⟨rfl, hj, hlt⟩]
  have hlater : ∀ i, 1 < i → ∀ j, first.entry i j = ⟨0, ⊤⟩ := fun i hi j => by
    rw [hentry, if_neg (by omega)]
  obtain ⟨t, hfold, hsized', hholds, -⟩ := fillRows_spec hsized hclasses hone hlater
    (show values.length - 1 + 1 ≤ values.length by omega)
  rw [Nat.sub_add_cancel hpos] at hholds
  refine ⟨t, ?_, hsized', hholds⟩
  rw [fillTable, hfirst]
  exact hfold

/-- A cell of the table has a cut that leaves some values to the earlier classes or none. -/
theorem HoldsUpTo.exists_cut {t : Table Cell} (h : HoldsUpTo values classes t values.length)
    {row column : Nat} (hpos : 1 ≤ row) (hrow : row ≤ values.length) (hcolumn : column < classes) :
    ∃ cut, (cutsOf classes (upTo values row))[column]? = some cut ∧
      (t.entry row (column + 1)).Holds cut ∧ cut.before < row := by
  have hclasses : 1 ≤ classes := by omega
  obtain ⟨k, rfl⟩ : ∃ k, row = k + 1 := ⟨row - 1, by omega⟩
  have hcomplete : Complete classes (cutsOf classes (upTo values (k + 1))) :=
    complete_cutsOf_upTo hclasses hrow
  obtain ⟨cut, hcut⟩ : ∃ cut, (cutsOf classes (upTo values (k + 1)))[column]? = some cut :=
    ⟨_, List.getElem?_eq_getElem (by rw [hcomplete.length_eq]; exact hcolumn)⟩
  have hlength := length_upTo hrow
  have hbefore := before_lt_length hclasses (List.ne_nil_of_length_pos (by omega))
    (List.mem_of_getElem? hcut)
  rw [hlength] at hbefore
  refine ⟨cut, hcut, ?_, hbefore⟩
  have hentry := h (k + 1) hpos hrow column cut hcut
  rwa [Nat.add_comm 1 column] at hentry

/-- The first values are the last ones of them and the values before these. -/
theorem exists_upTo_append {m n : Nat} (h : m < n) (hn : n ≤ values.length) :
    ∃ last, last ≠ [] ∧ upTo values n = last ++ upTo values m := by
  have hsplit : values.take n = values.take m ++ (values.take n).drop m := by
    have htake : (values.take n).take m = values.take m := by
      rw [List.take_take, Nat.min_eq_left h.le]
    rw [← htake, List.take_append_drop]
  refine ⟨((values.take n).drop m).reverse, ?_, ?_⟩
  · rw [List.reverse_ne_nil_iff, ← List.length_pos_iff, List.length_drop, List.length_take]
    omega
  · rw [upTo, upTo, ← List.reverse_append, ← hsplit]

/-- The last break that is left is replaced. -/
theorem setAt?_zeros (first value : ℚ) (n : Nat) (later : List ℚ) :
    setAt? (first :: (List.replicate (n + 1) 0 ++ later)) (n + 1) value =
      some (first :: (List.replicate n 0 ++ value :: later)) := by
  have hlength : (List.replicate n (0 : ℚ)).length ≤ n := List.length_replicate.le
  have hplace : n + 1 < (first :: (List.replicate (n + 1) 0 ++ later)).length := by
    rw [List.length_cons, List.length_append, List.length_replicate]
    omega
  rw [setAt?, if_pos hplace, List.set_cons_succ, List.replicate_succ', List.append_assoc,
    List.set_append_right n value hlength, List.length_replicate, Nat.sub_self]
  rfl

/-- Without earlier values the breaks that are left stay zero. -/
theorem innerBreaks_of_no_cut {i : Nat} {value : ℚ} {earlier : List ℚ} {cut : Cut ℚ}
    (hcut : (cutsOf classes (value :: earlier))[i + 1]? = some cut) (hbefore : cut.before = 0)
    (later : List ℚ) :
    innerBreaks (i + 1) (stagesOf classes (value :: earlier)) later =
      List.replicate (i + 1) 0 ++ later := by
  rw [stagesOf_cons, innerBreaks.eq_def]
  simp only [hcut, Option.map_some, Option.getD_some, hbefore, Nat.sub_zero, List.drop_length]
  rfl

/-- Going back through the table places the breaks that going back through the stages does. -/
theorem goBack_spec {t : Table Cell} (hsized : t.Sized (values.length + 1) (classes + 1))
    (hholds : HoldsUpTo values classes t values.length) {column row : Nat} (hcolumn : column < classes)
    (hpos : 1 ≤ row) (hrow : row ≤ values.length) (first : ℚ) (later : List ℚ) :
    goBack values t (column + 1) row (first :: (List.replicate column 0 ++ later)) =
      some (first :: innerBreaks column (stagesOf classes (upTo values row)) later) := by
  induction column generalizing row later with
  | zero => rfl
  | succ column ih =>
      obtain ⟨cut, hcut, hcell, hbefore⟩ := hholds.exists_cut hpos hrow hcolumn
      have hget : t.get? row (column + 2) = some (t.entry row (column + 2)) :=
        Table.get?_eq_some (by rw [hsized.rows_eq]; omega) (by rw [hsized.columns_eq]; omega)
      have hstart : (t.entry row (column + 2)).start - 1 = cut.before := hcell.start_eq
      rw [goBack, hget]
      simp only [Option.bind_eq_bind, Option.bind_some]
      split
      · next hlt =>
        obtain ⟨k, rfl⟩ : ∃ k, row = k + 1 := ⟨row - 1, by omega⟩
        obtain ⟨value, -, hstage⟩ := exists_upTo_succ hrow
        rw [hstage] at hcut ⊢
        rw [innerBreaks_of_no_cut hcut (by omega)]
      · next hge =>
        obtain ⟨b, hb⟩ : ∃ b, cut.before = b + 1 := ⟨cut.before - 1, by omega⟩
        obtain ⟨value, hvalue, hearlier⟩ := exists_upTo_succ (show b < values.length by omega)
        obtain ⟨last, hlast, hupTo⟩ := exists_upTo_append (show b + 1 < row by omega) hrow
        have hplace : (t.entry row (column + 2)).start - 2 = b := by omega
        rw [hplace, hstart, hb, hvalue, Option.bind_some, setAt?_zeros, Option.bind_some,
          ih (by omega) (by omega) (by omega)]
        rw [hearlier] at hupTo ⊢
        rw [hupTo] at hcut ⊢
        rw [innerBreaks_of_cut hlast hcut (by rw [hb, length_upTo (by omega)])]

end Search

/-- Breaks that are there already stay behind the others. -/
theorem innerBreaks_append (number : Nat) (stages : List (Stage ℚ)) (later last : List ℚ) :
    innerBreaks number stages (later ++ last) = innerBreaks number stages later ++ last := by
  induction number generalizing stages later with
  | zero => rfl
  | succ number ih =>
      unfold innerBreaks
      dsimp only
      split
      · rw [← List.cons_append, ih]
      · rw [List.append_assoc]

/-- Breaks by a table stay in bounds, and are those by stages. -/
theorem tableBreaks_eq (values : List ℚ) (count : Nat) :
    tableBreaks values count = some (naturalBreaks values count) := by
  rcases eq_or_ne values [] with rfl | hne
  · rfl
  have hpos := List.length_pos_iff.2 hne
  obtain ⟨i, hcount⟩ : ∃ i, classCount values count = i + 1 :=
    ⟨classCount values count - 1, by unfold classCount; omega⟩
  obtain ⟨t, hfill, hsized, hholds⟩ := fillTable_spec hne (Nat.le_add_left 1 i)
  have hfirst : values[0]? = some (values.head hne) := by
    rw [← List.head?_eq_getElem?, List.head?_eq_some_head hne]
  have hlast : values[values.length - 1]? = some (values.getLast hne) := by
    rw [← List.getLast?_eq_getElem?, List.getLast?_eq_some_getLast hne]
  have hzeros : setAt? (List.replicate (i + 2) 0) 0 (values.head hne) =
      some (values.head hne :: (List.replicate (i + 1) 0 ++ [])) := by
    rw [List.append_nil]
    exact if_pos (by simp)
  have hback := goBack_spec hsized hholds (Nat.lt_succ_self i) hpos (le_refl _) (values.head hne)
    [values.getLast hne]
  have hall : upTo values values.length = values.reverse := by rw [upTo, List.take_length]
  rw [tableBreaks, if_neg (by omega), hcount]
  simp only [hfill, hfirst, hlast, Option.bind_eq_bind, Option.bind_some, hzeros, setAt?_zeros]
  rw [hback, hall, ← stages_eq, naturalBreaks, List.head?_eq_some_head hne,
    List.getLast?_eq_some_getLast hne, hcount]
  have happend := innerBreaks_append i (stages (i + 1) values) [] [values.getLast hne]
  rw [List.nil_append] at happend
  rw [happend]
  rfl

end GeoLayers.Classification
