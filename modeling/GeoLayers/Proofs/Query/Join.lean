import GeoLayers.Query.Compile
import Mathlib.Algebra.BigOperators.Group.List.Basic
import Mathlib.Algebra.Group.Action.Defs
import Mathlib.Algebra.Order.BigOperators.GroupWithZero.List
import Mathlib.Algebra.Order.Group.Multiset
import Mathlib.Algebra.Order.Ring.Nat

/-!
The rows that the database answers to a query with joined tables. Each of them is one row of the
layer's table with one row of every joined table, or with none where none matches; so with several
joined tables a related row stands in several rows of the answer. How the database compares values
is left open, and so is the order of the rows that belong to one row of the layer.
-/

namespace GeoLayers.Join

/-- A row of a table, by the names of its columns. -/
abbrev TableRow := String → Json

/-- A row of a layer's table, with the text of its geometry. -/
structure Parent where
  columns : TableRow
  shape : Json

/-- The related tables and the comparison of the values that they are joined on. -/
structure Tables where
  rows : Relation → List TableRow
  equal : Json → Json → Bool

/-- One row of each joined table under the title of its relation, none where nothing matches. -/
abbrev Combination := List (String × Option TableRow)

/-- The row of the table with a title. -/
def Combination.row? (combination : Combination) (title : String) : Option TableRow :=
  (combination.lookup title).join

/-- The value of a selected field. The columns of a table without a row are null. -/
def Combination.value (parent : Parent) (combination : Combination) (name : String) : Json :=
  match Text.cutAt '.' name with
  | some (title, column) => ((combination.row? title).map (· column)).getD .null
  | none => parent.columns name

/-- A row of the answer. Of two columns with one name the last counts, as in any object. -/
def answerRow (names : List String) (withGeometry : Bool) (parent : Parent)
    (combination : Combination) : Attributes :=
  let row := Dictionary.ofList (names.map fun name => (name, combination.value parent name))
  if withGeometry then row.insert geometryColumn parent.shape else row

namespace Tables

variable (tables : Tables) (parent : Parent)

/-- The rows of a related table that match a row of the layer. -/
def partners (relation : Relation) : List TableRow :=
  (tables.rows relation).filter fun row =>
    tables.equal (parent.columns relation.sourceColumn) (row relation.targetColumn)

/-- The rows that an outer join puts beside a row of the layer. -/
def choices (relation : Relation) : List (Option TableRow) :=
  match tables.partners parent relation with
  | [] => [none]
  | rows => rows.map some

def combinations : List Relation → List Combination
  | [] => [[]]
  | relation :: relations =>
    (tables.choices parent relation).flatMap fun row =>
      (combinations relations).map ((relation.title, row) :: ·)

/-- How often a related row of one relation is answered: once for every combination of the rows of
the other joined tables. -/
def repetitions (relations : List Relation) (relation : Relation) : Nat :=
  ((relations.filter (·.title != relation.title)).map fun other =>
    max 1 (tables.partners parent other).length).prod

/-- The rows of an answer: for each row of the layer in order its combinations, in any order. -/
inductive Answers (names : List String) (withGeometry : Bool) (relations : List Relation) :
    List Parent → List Attributes → Prop where
  | nil : Answers names withGeometry relations [] []
  | cons {parent : Parent} {parents : List Parent} {order : List Combination}
      {rows : List Attributes} (horder : order.Perm (tables.combinations parent relations))
      (hrows : Answers names withGeometry relations parents rows) :
      Answers names withGeometry relations (parent :: parents)
        (order.map (answerRow names withGeometry parent) ++ rows)

/-- The rows of an answer as nested loops over the tables give them. -/
def nestedLoops (names : List String) (withGeometry : Bool) (relations : List Relation) :
    List Parent → List Attributes
  | [] => []
  | parent :: parents =>
    (tables.combinations parent relations).map (answerRow names withGeometry parent) ++
      nestedLoops names withGeometry relations parents

theorem answers_nestedLoops (names : List String) (withGeometry : Bool) (relations : List Relation)
    (parents : List Parent) :
    tables.Answers names withGeometry relations parents
      (tables.nestedLoops names withGeometry relations parents) := by
  induction parents with
  | nil => exact .nil
  | cons parent parents ih => exact .cons (.refl _) ih

variable {tables parent}

theorem length_choices (relation : Relation) :
    (tables.choices parent relation).length = max 1 (tables.partners parent relation).length := by
  unfold choices
  cases tables.partners parent relation with
  | nil => rfl
  | cons row rows =>
      simp only [List.length_map, List.length_cons]
      omega

theorem length_combinations (relations : List Relation) :
    (tables.combinations parent relations).length =
      (relations.map fun relation => max 1 (tables.partners parent relation).length).prod := by
  induction relations with
  | nil => rfl
  | cons relation relations ih =>
      simp only [combinations, List.length_flatMap, List.length_map, List.map_const', ih,
        length_choices, List.sum_replicate, smul_eq_mul, List.map_cons, List.prod_cons]

theorem combinations_ne_nil (relations : List Relation) :
    tables.combinations parent relations ≠ [] := by
  rw [← List.length_pos_iff, length_combinations]
  apply List.prod_pos
  intro count hcount
  obtain ⟨relation, -, rfl⟩ := List.mem_map.1 hcount
  omega

theorem titles_of_mem_combinations {relations : List Relation} {combination : Combination}
    (h : combination ∈ tables.combinations parent relations) :
    combination.map Prod.fst = relations.map Relation.title := by
  induction relations generalizing combination with
  | nil =>
      obtain rfl := List.mem_singleton.1 h
      rfl
  | cons relation relations ih =>
      obtain ⟨row, -, hrest⟩ := List.mem_flatMap.1 h
      obtain ⟨rest, hmem, rfl⟩ := List.mem_map.1 hrest
      simp only [List.map_cons, ih hmem]

/-- Each row of a choice stands beside every one of some other things. -/
theorem coe_flatMap_choices {α : Type} (relation : Relation) (others : List α) :
    (((tables.choices parent relation).flatMap fun row => others.filterMap fun _ => row :
        List TableRow) : Multiset TableRow) =
      others.length • (tables.partners parent relation : Multiset TableRow) := by
  have hsome (rows : List TableRow) :
      (((rows.map some).flatMap fun row => others.filterMap fun _ => row : List TableRow) :
        Multiset TableRow) = others.length • (rows : Multiset TableRow) := by
    induction rows with
    | nil => simp
    | cons row rows ih =>
        have hrow : others.filterMap (fun _ => some row) = List.replicate others.length row := by
          rw [List.filterMap_eq_map', List.map_const']
        rw [List.map_cons, List.flatMap_cons, ← Multiset.coe_add, ih, hrow, ← Multiset.cons_coe,
          ← Multiset.singleton_add, nsmul_add, Multiset.nsmul_singleton, Multiset.coe_replicate]
  unfold choices
  cases tables.partners parent relation with
  | nil => simp
  | cons row rows => exact hsome (row :: rows)

theorem coe_flatMap_const {α β : Type} (items : List α) (others : List β) :
    ((items.flatMap fun _ => others : List β) : Multiset β) =
      items.length • (others : Multiset β) := by
  induction items with
  | nil => simp
  | cons item items ih =>
      rw [List.flatMap_cons, ← Multiset.coe_add, ih, List.length_cons, succ_nsmul']

/-- Among the combinations, every matching row of a related table is there as often as there are
combinations of the rows of the other tables, and no other row is. -/
theorem coe_rows_combinations {relations : List Relation}
    (hnodup : (relations.map Relation.title).Nodup) {relation : Relation}
    (hmem : relation ∈ relations) :
    (((tables.combinations parent relations).filterMap (·.row? relation.title) : List TableRow) :
        Multiset TableRow) =
      tables.repetitions parent relations relation •
        (tables.partners parent relation : Multiset TableRow) := by
  induction relations with
  | nil => cases hmem
  | cons first relations ih =>
      rw [List.map_cons, List.nodup_cons] at hnodup
      obtain ⟨hfirst, hnodup⟩ := hnodup
      rw [combinations, List.filterMap_flatMap]
      simp only [List.filterMap_map]
      by_cases htitle : first.title = relation.title
      · -- The row is chosen here, once for each combination of the other tables.
        have hothers : relations.filter (·.title != relation.title) = relations := by
          rw [List.filter_eq_self]
          intro other hother
          rw [bne_iff_ne, ← htitle]
          exact fun heq => hfirst (heq ▸ List.mem_map_of_mem hother)
        have hrelation : relation = first := by
          rcases List.mem_cons.1 hmem with heq | hlater
          · exact heq
          · exact absurd (htitle ▸ List.mem_map_of_mem hlater) hfirst
        have hrow (row : Option TableRow) :
            (fun rest : Combination =>
              Combination.row? ((first.title, row) :: rest) relation.title) = fun _ => row := by
          funext rest
          simp [Combination.row?, htitle]
        simp only [Function.comp_def, hrow]
        rw [coe_flatMap_choices, length_combinations, repetitions, List.filter_cons, hothers,
          if_neg (by simp [htitle]), hrelation]
      · have hrow (row : Option TableRow) :
            (fun rest : Combination =>
              Combination.row? ((first.title, row) :: rest) relation.title) =
              (·.row? relation.title) := by
          funext rest
          rw [Combination.row?, Combination.row?, List.lookup_cons,
            beq_eq_false_iff_ne.2 (Ne.symm htitle)]
        have hlater : relation ∈ relations := by
          rcases List.mem_cons.1 hmem with rfl | hlater
          · exact absurd rfl htitle
          · exact hlater
        simp only [Function.comp_def, hrow]
        rw [coe_flatMap_const, ih hnodup hlater, length_choices, repetitions, repetitions,
          List.filter_cons, if_pos (by simp [htitle]), List.map_cons, List.prod_cons, mul_nsmul']

/-- With at most one matching row in every other joined table nothing is repeated. -/
theorem repetitions_eq_one {relations : List Relation} {relation : Relation}
    (h : ∀ other ∈ relations, other.title ≠ relation.title →
      (tables.partners parent other).length ≤ 1) :
    tables.repetitions parent relations relation = 1 := by
  apply List.prod_eq_one
  intro count hcount
  obtain ⟨other, hother, rfl⟩ := List.mem_map.1 hcount
  obtain ⟨hmem, htitle⟩ := List.mem_filter.1 hother
  have hone := h other hmem (bne_iff_ne.1 htitle)
  omega

end Tables

end GeoLayers.Join
