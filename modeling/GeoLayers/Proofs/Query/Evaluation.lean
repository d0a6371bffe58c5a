import GeoLayers.Proofs.Query.Join
import GeoLayers.Proofs.Query.References
import Mathlib.Data.List.Pairwise

/-!
What a query's statement means as relational algebra: the layer's table is joined with the related
tables, the rows that satisfy the conditions are kept, and from them the columns, the distinct object
ids or the number is answered. How the database decides conditions is left open, except that it looks
at no related table that the conditions do not name; so is when it takes two values to be the same,
and the order of the answer.
-/

namespace GeoLayers.Join

/-- The rows of the tables with some titles. -/
def Combination.restrict (titles : List String) (combination : Combination) : Combination :=
  combination.filter fun row => titles.contains row.1

@[simp] theorem Combination.restrict_restrict (titles : List String) (combination : Combination) :
    (combination.restrict titles).restrict titles = combination.restrict titles := by
  rw [restrict, restrict, List.filter_filter]
  simp only [Bool.and_self]

/-- The value of a column in a row of the joined tables. -/
def Combination.valueOf (parent : Parent) (combination : Combination) (r : Reference) : Json :=
  if r.source = sourceAlias then parent.columns r.column
  else ((combination.row? r.source).map (· r.column)).getD .null

namespace Tables

variable {tables : Tables} {parent : Parent} {relations : List Relation} {titles : List String}

theorem choices_ne_nil (parent : Parent) (relation : Relation) :
    tables.choices parent relation ≠ [] := by
  rw [← List.length_pos_iff, length_choices]
  omega

/-- Without the rows of some tables, a combination is one of the others. -/
theorem restrict_mem_combinations (titles : List String) {combination : Combination}
    (h : combination ∈ tables.combinations parent relations) :
    combination.restrict titles ∈
      tables.combinations parent (relations.filter (titles.contains ·.title)) := by
  induction relations generalizing combination with
  | nil =>
      obtain rfl := List.mem_singleton.1 h
      exact List.mem_singleton.2 rfl
  | cons relation relations ih =>
      obtain ⟨row, hrow, hrest⟩ := List.mem_flatMap.1 h
      obtain ⟨rest, hmem, rfl⟩ := List.mem_map.1 hrest
      rw [Combination.restrict, List.filter_cons, List.filter_cons]
      dsimp only
      split
      · exact List.mem_flatMap.2 ⟨row, hrow, List.mem_map_of_mem (ih hmem)⟩
      · exact ih hmem

/-- Every combination of some tables is what is left of one with others. -/
theorem exists_mem_combinations_restrict {combination : Combination}
    (h : combination ∈ tables.combinations parent (relations.filter (titles.contains ·.title))) :
    ∃ whole ∈ tables.combinations parent relations, whole.restrict titles = combination := by
  induction relations generalizing combination with
  | nil =>
      obtain rfl := List.mem_singleton.1 h
      exact ⟨[], List.mem_singleton.2 rfl, rfl⟩
  | cons relation relations ih =>
      rw [List.filter_cons] at h
      split at h
      case isTrue hnamed =>
        obtain ⟨row, hrow, hrest⟩ := List.mem_flatMap.1 h
        obtain ⟨rest, hmem, rfl⟩ := List.mem_map.1 hrest
        obtain ⟨whole, hwhole, rfl⟩ := ih hmem
        refine ⟨(relation.title, row) :: whole,
          List.mem_flatMap.2 ⟨row, hrow, List.mem_map_of_mem hwhole⟩, ?_⟩
        rw [Combination.restrict, List.filter_cons, if_pos hnamed]
        rfl
      case isFalse hnamed =>
        obtain ⟨whole, hwhole, rfl⟩ := ih h
        obtain ⟨row, hrow⟩ := List.exists_mem_of_ne_nil _ (choices_ne_nil parent relation)
        refine ⟨(relation.title, row) :: whole,
          List.mem_flatMap.2 ⟨row, hrow, List.mem_map_of_mem hwhole⟩, ?_⟩
        rw [Combination.restrict, List.filter_cons, if_neg hnamed]
        rfl

/-- If every joined table has at most one matching row, there is one combination. -/
theorem length_combinations_of_le_one
    (h : ∀ relation ∈ relations, (tables.partners parent relation).length ≤ 1) :
    (tables.combinations parent relations).length = 1 := by
  rw [length_combinations]
  apply List.prod_eq_one
  intro count hcount
  obtain ⟨relation, hmem, rfl⟩ := List.mem_map.1 hcount
  have hone := h relation hmem
  omega

end Tables

/-- What a database holds for a layer, and how it compares values and decides conditions. -/
structure Contents where
  parents : List Parent
  tables : Tables
  /-- Whether two values are the same, so that only one of them is distinct. -/
  same : Json → Json → Bool
  /-- Whether conditions with their parameters are true of a row of the layer's table and the rows
  of the related tables that they name. -/
  satisfied : List Conjunct → List Bind → Parent → Combination → Bool

end GeoLayers.Join

namespace GeoLayers

/-- The titles of the relations that a condition names. Only the client's own can name any. -/
def Conjunct.titles : Conjunct → List String
  | .clause condition => condition.titles
  | _ => []

/-- The rows that are answered for what is selected from some rows of the joined tables. -/
def SelectList.rows (same : Json → Json → Bool) (joined : List (Join.Parent × Join.Combination)) :
    SelectList → List Attributes
  | .count => [Dictionary.ofList [("count", .integer joined.length)]]
  | .distinct id =>
    ((joined.map fun (parent, combination) => combination.valueOf parent id).pwFilter
      fun value other => ¬same value other).map fun value => Dictionary.ofList [(id.column, value)]
  | .columns items geometry =>
    joined.map fun (parent, combination) =>
      let row := Dictionary.ofList
        (items.map fun (r, name) => (name, combination.valueOf parent r))
      if geometry.isSome then row.insert geometryColumn parent.shape else row

namespace Plan

open Join

variable (contents : Contents) (layer : Layer) (request : QueryRequest) (plan : Plan)

/-- The rows of the related tables beside which a row of the layer satisfies a query. -/
def satisfying (parent : Parent) : List Combination :=
  let conditions := request.conjuncts layer plan.condition
  (contents.tables.combinations parent (plan.relations layer)).filter fun combination =>
    contents.satisfied conditions ((request.boundValues layer).map request.bindOf) parent
      (combination.restrict (conditions.flatMap Conjunct.titles))

/-- The rows that are answered to a query without a limit, in one order. -/
def rows : List Attributes :=
  (plan.sources layer).select.rows contents.same <|
    contents.parents.flatMap fun parent =>
      (plan.satisfying contents layer request parent).map (parent, ·)

variable {contents layer request plan}

/-- A row of the layer that has at most one related row in every joined table satisfies a query
beside at most one combination. -/
theorem length_satisfying_le_one {parent : Parent}
    (h : ∀ relation ∈ plan.relations layer, (contents.tables.partners parent relation).length ≤ 1) :
    (plan.satisfying contents layer request parent).length ≤ 1 := by
  have hone := Tables.length_combinations_of_le_one h
  exact hone ▸ List.length_filter_le _ _

variable (layer request plan) in
/-- A statement is written from a plan: its text has what the plan refers to, its conditions and its
page, and its parameters are the values of the request. -/
structure Writes (s : Statement) : Prop where
  sql : s.sql = (plan.sources layer).text layer.table
    (Part.render (request.boundValues layer) (.value .outSrid))
    (Part.renderAll (request.boundValues layer) (plan.conditionLayout layer request))
    (Part.renderAll (request.boundValues layer) request.pageLayout)
  binds : s.binds = (request.boundValues layer).map request.bindOf

theorem writes_of_compile {catalog : Catalog} {s : Statement}
    (h : compile layer catalog request = .ok s) :
    ∃ plan, make layer catalog request = .ok plan ∧ plan.Writes layer request s := by
  obtain ⟨plan, hplan, -, rfl⟩ := compile_layout h
  exact ⟨plan, hplan, renderAll_layout _, rfl⟩

theorem writes_of_make {catalog : Catalog} (h : make layer catalog request = .ok plan) :
    plan.Writes layer request (Statement.ofPieces (plan.pieces layer request)) := by
  obtain ⟨other, hother, hwrites⟩ := writes_of_compile (compile_of_make h)
  obtain rfl := Except.ok.inj (h.symm.trans hother)
  exact hwrites

/-- The related tables that conditions name are those that the client's own names. -/
theorem titles_conjuncts (condition : Option Where) :
    (request.conjuncts layer condition).flatMap Conjunct.titles =
      (condition.map Where.titles).getD [] := by
  have htime : (request.timeConjunct layer condition.isSome).flatMap Conjunct.titles = [] := by
    unfold QueryRequest.timeConjunct
    split
    · rfl
    · split <;> rfl
    · split <;> rfl
  have hids : (if request.objectIds.isEmpty then [] else [Conjunct.objectIds]).flatMap
      Conjunct.titles = [] := by
    split <;> rfl
  have hextent : (if request.extent.isSome then [Conjunct.extent] else []).flatMap
      Conjunct.titles = [] := by
    split <;> rfl
  rw [QueryRequest.conjuncts, List.flatMap_append, List.flatMap_append, List.flatMap_append, htime,
    hids, hextent]
  cases condition with
  | none => rfl
  | some w => simp [Conjunct.titles]

end Plan

end GeoLayers
