import GeoLayers.Proofs.Catalog.Lookup
import GeoLayers.Proofs.Query.Plan

/-!
What is asked to look up the catalog of a layer. The questions are for the columns of the layer's
own table and then of the related tables, of each table once. They go on as long as the replies
tell columns, and stop at the first reply that does not, or if the layer's own table has none.
-/

namespace GeoLayers

open Database

/-- The tables of the relations of a layer, each once and without the layer's own. -/
def Layer.relatedTables (layer : Layer) : List String :=
  (firstOccurrences (layer.relations.map (·.table))).filter (· != layer.table)

namespace Catalog

/-- The command that asks for the columns of a table. -/
def question (table : String) : Command :=
  .run (columnsStatement table) [.text, .text, .text]

/-- The columns that a reply tells, or what is wrong with it. -/
def told (reply : Reply) : Except Error (List Field) :=
  match reply with
  | .error report => .error (.query (.ofMessage report.message))
  | .ok answer =>
    match answer.rows.mapM columnOfRow? with
    | some columns => .ok columns
    | none => .error .internal

/-- How some tables are asked for, one after the other: every reply tells the columns of its table,
or it is the last one and the error is what is wrong with it. -/
inductive Asked (columns : String → List Field) :
    List String → List (Command × Reply) → Option Error → Prop where
  | done : Asked columns [] [] none
  | told {table : String} {tables : List String} {reply : Reply}
      {exchanges : List (Command × Reply)} {failure : Option Error}
      (htold : told reply = .ok (columns table)) (h : Asked columns tables exchanges failure) :
      Asked columns (table :: tables) ((question table, reply) :: exchanges) failure
  | failed {table : String} {tables : List String} {reply : Reply} {e : Error}
      (htold : told reply = .error e) :
      Asked columns (table :: tables) [(question table, reply)] (some e)

/-- The catalog of a layer whose tables have some columns. -/
def ofTables (layer : Layer) (columns : String → List Field) : Catalog :=
  .ofColumns layer (columns layer.table)
    (layer.relations.map fun relation => .ofColumns relation (columns relation.table))

/-- How the catalog of a layer is looked up: its own table is asked for, and the related tables only
if the own one has columns. -/
inductive LookedUp (layer : Layer) : List (Command × Reply) → Except Error Catalog → Prop where
  | failed {reply : Reply} {e : Error} (htold : told reply = .error e) :
      LookedUp layer [(question layer.table, reply)] (.error e)
  | missing {reply : Reply} (htold : told reply = .ok []) :
      LookedUp layer [(question layer.table, reply)]
        (.error (.missing (.table layer.table layer.name)))
  | unrelated {columns : String → List Field} {reply : Reply}
      {exchanges : List (Command × Reply)} {e : Error}
      (htold : told reply = .ok (columns layer.table)) (hcolumns : columns layer.table ≠ [])
      (h : Asked columns layer.relatedTables exchanges (some e)) :
      LookedUp layer ((question layer.table, reply) :: exchanges) (.error e)
  | found {columns : String → List Field} {reply : Reply} {exchanges : List (Command × Reply)}
      (htold : told reply = .ok (columns layer.table)) (hcolumns : columns layer.table ≠ [])
      (h : Asked columns layer.relatedTables exchanges none) :
      LookedUp layer ((question layer.table, reply) :: exchanges) (.ok (ofTables layer columns))

variable {exchanges : List (Command × Reply)}

/-- All that is said while tables are asked for are questions for their columns. -/
theorem Asked.question_of_mem {columns : String → List Field} {tables : List String}
    {failure : Option Error} (h : Asked columns tables exchanges failure) :
    ∀ exchange ∈ exchanges, ∃ table ∈ tables, exchange.1 = question table := by
  induction h with
  | done => simp
  | told htold h ih =>
      intro exchange hexchange
      rcases List.mem_cons.1 hexchange with rfl | hrest
      · exact ⟨_, List.mem_cons_self, rfl⟩
      · obtain ⟨table, htable, hquestion⟩ := ih exchange hrest
        exact ⟨table, List.mem_cons_of_mem _ htable, hquestion⟩
  | failed htold =>
      intro exchange hexchange
      rw [List.mem_singleton.1 hexchange]
      exact ⟨_, List.mem_cons_self, rfl⟩

theorem LookedUp.question_of_mem {layer : Layer} {result : Except Error Catalog}
    (h : LookedUp layer exchanges result) :
    ∀ exchange ∈ exchanges, ∃ table ∈ layer.table :: layer.relatedTables,
      exchange.1 = question table := by
  have hown {reply : Reply} {rest : List (Command × Reply)}
      (hrest : ∀ exchange ∈ rest, ∃ table ∈ layer.relatedTables, exchange.1 = question table) :
      ∀ exchange ∈ (question layer.table, reply) :: rest,
        ∃ table ∈ layer.table :: layer.relatedTables, exchange.1 = question table := by
    intro exchange hexchange
    rcases List.mem_cons.1 hexchange with rfl | hmem
    · exact ⟨layer.table, List.mem_cons_self, rfl⟩
    · obtain ⟨table, htable, hquestion⟩ := hrest exchange hmem
      exact ⟨table, List.mem_cons_of_mem _ htable, hquestion⟩
  cases h with
  | failed htold => exact hown (by simp)
  | missing htold => exact hown (by simp)
  | unrelated htold hcolumns h => exact hown h.question_of_mem
  | found htold hcolumns h => exact hown h.question_of_mem

theorem LookedUp.ne_nil {layer : Layer} {result : Except Error Catalog}
    (h : LookedUp layer exchanges result) : exchanges ≠ [] := by
  cases h <;> simp

/-- What is said while tables are asked for tells how that ends, however much is said after it. -/
theorem Asked.unique {columns columns' : String → List Field} {tables : List String}
    {exchanges' : List (Command × Reply)} {failure failure' : Option Error}
    (h : Asked columns tables exchanges failure) (h' : Asked columns' tables exchanges' failure')
    (hstart : exchanges <+: exchanges') :
    failure = failure' ∧ (failure = none → ∀ table ∈ tables, columns table = columns' table) := by
  induction h generalizing exchanges' with
  | done =>
      cases h'
      simp
  | told htold h ih =>
      cases h' with
      | told htold' h' =>
          obtain ⟨hsame, hrest⟩ := List.cons_prefix_cons.1 hstart
          cases hsame
          obtain ⟨rfl, hcolumns⟩ := ih h' hrest
          have hown := Except.ok.inj (htold.symm.trans htold')
          exact ⟨rfl, fun hnone => List.forall_mem_cons.2 ⟨hown, hcolumns hnone⟩⟩
      | failed htold' =>
          cases (List.cons_prefix_cons.1 hstart).1
          rw [htold] at htold'
          cases htold'
  | failed htold =>
      cases h' with
      | told htold' h' =>
          cases (List.cons_prefix_cons.1 hstart).1
          rw [htold] at htold'
          cases htold'
      | failed htold' =>
          cases (List.cons_prefix_cons.1 hstart).1
          rw [htold] at htold'
          cases htold'
          exact ⟨rfl, fun hnone => by cases hnone⟩

theorem mem_relatedTables {layer : Layer} {relation : Relation} (h : relation ∈ layer.relations) :
    relation.table = layer.table ∨ relation.table ∈ layer.relatedTables := by
  by_cases heq : relation.table = layer.table
  · exact .inl heq
  · apply Or.inr
    rw [Layer.relatedTables, List.mem_filter, mem_firstOccurrences]
    exact ⟨List.mem_map_of_mem h, bne_iff_ne.2 heq⟩

/-- The catalog of a layer depends on the columns of its tables only. -/
theorem ofTables_congr {layer : Layer} {columns columns' : String → List Field}
    (hown : columns layer.table = columns' layer.table)
    (hrelated : ∀ table ∈ layer.relatedTables, columns table = columns' table) :
    ofTables layer columns = ofTables layer columns' := by
  rw [ofTables, ofTables, hown]
  congr 1
  apply List.map_congr_left
  intro relation hrelation
  rcases mem_relatedTables hrelation with heq | hmem
  · rw [heq, hown]
  · rw [hrelated _ hmem]

/-- What is said to look up a catalog tells how that ends, however much is said after it. -/
theorem LookedUp.unique {layer : Layer} {exchanges' : List (Command × Reply)}
    {result result' : Except Error Catalog} (h : LookedUp layer exchanges result)
    (h' : LookedUp layer exchanges' result') (hstart : exchanges <+: exchanges') :
    result = result' := by
  rcases h with htold | htold | ⟨htold, hcolumns, hasked⟩ | ⟨htold, hcolumns, hasked⟩
  all_goals
    rcases h' with htold' | htold' | ⟨htold', hcolumns', hasked'⟩ | ⟨htold', hcolumns', hasked'⟩
  all_goals
    obtain ⟨hsame, hrest⟩ := List.cons_prefix_cons.1 hstart
    cases hsame
    -- The two begin with one reply, which is either refused or tells columns.
    simp only [htold, Except.ok.injEq, Except.error.injEq, reduceCtorEq] at htold'
  case failed.failed.refl => rw [htold']
  case missing.missing.refl => rfl
  case missing.unrelated.refl => exact absurd htold'.symm hcolumns'
  case missing.found.refl => exact absurd htold'.symm hcolumns'
  case unrelated.missing.refl => exact absurd htold' hcolumns
  case found.missing.refl => exact absurd htold' hcolumns
  all_goals obtain ⟨hfailure, hrelated⟩ := hasked.unique hasked' hrest
  case unrelated.unrelated.refl => rw [Option.some.inj hfailure]
  case unrelated.found.refl => cases hfailure
  case found.unrelated.refl => cases hfailure
  case found.found.refl => rw [ofTables_congr htold' (hrelated rfl)]

theorem trace_askColumns {table : String} {result : Except Error (List Field)}
    (h : (askColumns table).Trace exchanges result) :
    ∃ reply, exchanges = [(question table, reply)] ∧ result = told reply := by
  rcases Work.trace_bind h with ⟨e, hasked, rfl⟩ | ⟨answer, before, after, hasked, hread, rfl⟩
  · rcases Work.trace_runPlain hasked with ⟨answer, -, hnone⟩ | ⟨report, rfl, hreport⟩
    · cases hnone
    · obtain rfl := Except.error.inj hreport
      exact ⟨.error report, rfl, rfl⟩
  · rcases Work.trace_runPlain hasked with ⟨answer', rfl, hanswer⟩ | ⟨report, -, hnone⟩
    · obtain rfl := Except.ok.inj hanswer
      exists .ok answer
      rw [told]
      obtain ⟨rfl, ⟨columns, hrows, rfl⟩ | ⟨hrows, rfl⟩⟩ := Work.trace_readRows hread
      · rw [hrows]
        exact ⟨rfl, rfl⟩
      · rw [hrows]
        exact ⟨rfl, rfl⟩
    · cases hnone

/-- A table is asked for only if its columns are not known. -/
theorem trace_columnsOf {known : Known} {table : String} {result : Except Error (List Field × Known)}
    (h : (columnsOf known table).Trace exchanges result) :
    (∃ columns, known.find? table = some columns ∧ exchanges = [] ∧ result = .ok (columns, known)) ∨
      known.find? table = none ∧ ∃ reply, exchanges = [(question table, reply)] ∧
        ((∃ columns, told reply = .ok columns ∧
            result = .ok (columns, Dictionary.insert known table columns)) ∨
          ∃ e, told reply = .error e ∧ result = .error e) := by
  unfold columnsOf at h
  cases hfound : known.find? table with
  | some columns =>
      rw [hfound] at h
      obtain ⟨rfl, rfl⟩ := Work.trace_pure h
      exact .inl ⟨columns, rfl, rfl, rfl⟩
  | none =>
      rw [hfound] at h
      apply Or.inr
      rcases Work.trace_bind h with ⟨e, hasked, rfl⟩ | ⟨columns, before, after, hasked, hrest, rfl⟩
      · obtain ⟨reply, rfl, htold⟩ := trace_askColumns hasked
        exact ⟨rfl, reply, rfl, .inr ⟨e, htold.symm, rfl⟩⟩
      · obtain ⟨reply, rfl, htold⟩ := trace_askColumns hasked
        obtain ⟨rfl, rfl⟩ := Work.trace_pure hrest
        exact ⟨rfl, reply, rfl, .inl ⟨columns, htold.symm, rfl⟩⟩

/-- The tables of some relations that are not known, each once. -/
def unknownTables (known : Known) (relations : List Relation) : List String :=
  (firstOccurrences (relations.map (·.table))).filter fun table => (known.find? table).isNone

theorem unknownTables_of_known {known : Known} {relation : Relation} {columns : List Field}
    (h : known.find? relation.table = some columns) (relations : List Relation) :
    unknownTables known (relation :: relations) = unknownTables known relations := by
  rw [unknownTables, unknownTables, List.map_cons, firstOccurrences, List.filter_cons, h,
    List.filter_filter]
  simp only [Option.isNone_some, Bool.false_eq_true, if_false]
  apply List.filter_congr
  intro table _
  by_cases htable : table = relation.table
  · simp [htable, h]
  · simp [htable]

theorem unknownTables_of_unknown {known : Known} {relation : Relation}
    (h : known.find? relation.table = none) (columns : List Field) (relations : List Relation) :
    unknownTables known (relation :: relations) =
      relation.table :: unknownTables (Dictionary.insert known relation.table columns) relations := by
  rw [unknownTables, unknownTables, List.map_cons, firstOccurrences, List.filter_cons, h,
    List.filter_filter]
  simp only [Option.isNone_none, if_true]
  congr 1
  apply List.filter_congr
  intro table _
  rw [Dictionary.find?_insert]
  by_cases htable : table = relation.table
  · simp [htable]
  · simp [htable]

/-- The error that work ended with, if it did. -/
def failureOf {α : Type} : Except Error α → Option Error
  | .ok _ => none
  | .error e => some e

/-- Whether columns of tables are those that are known. -/
def Known.Within (known : Known) (columns : String → List Field) : Prop :=
  ∀ table found, known.find? table = some found → columns table = found

theorem Known.within_getD (known : Known) :
    Known.Within known fun table => (known.find? table).getD [] := by
  intro table found hfound
  simp [hfound]

theorem Known.Within.of_insert {known : Known} {columns : String → List Field} {table : String}
    {fields : List Field} (h : Known.Within (Dictionary.insert known table fields) columns)
    (hunknown : known.find? table = none) : known.Within columns ∧ columns table = fields := by
  constructor
  · intro other found hfound
    apply h
    rw [Dictionary.find?_insert, if_neg ?_, hfound]
    rintro rfl
    rw [hunknown] at hfound
    cases hfound
  · apply h
    rw [Dictionary.find?_insert, if_pos rfl]

/-- A relation whose columns are known or heard, and then the other relations. -/
theorem asked_of_columnsOf {known known' : Known} {relation : Relation} {relations : List Relation}
    {fields : List Field} {columns : String → List Field} {before after : List (Command × Reply)}
    {failure : Option Error}
    (h : (columnsOf known relation.table).Trace before (.ok (fields, known')))
    (hwithin : known'.Within columns)
    (hasked : Asked columns (unknownTables known' relations) after failure) :
    known.Within columns ∧ columns relation.table = fields ∧
      Asked columns (unknownTables known (relation :: relations)) (before ++ after) failure := by
  rcases trace_columnsOf h with
    ⟨fields', hknown, rfl, hresult⟩ | ⟨hunknown, reply, rfl, ⟨fields', htold, hresult⟩ | ⟨e, -, hnone⟩⟩
  · cases hresult
    rw [unknownTables_of_known hknown]
    exact ⟨hwithin, hwithin _ _ hknown, hasked⟩
  · cases hresult
    obtain ⟨hbefore, hfields⟩ := hwithin.of_insert hunknown
    rw [unknownTables_of_unknown hunknown fields]
    exact ⟨hbefore, hfields, .told (htold.trans (by rw [hfields])) hasked⟩
  · cases hnone

/-- A relation whose columns cannot be heard. -/
theorem asked_of_columnsOf_error {known : Known} {relation : Relation} {relations : List Relation}
    {e : Error} (h : (columnsOf known relation.table).Trace exchanges (.error e))
    (columns : String → List Field) :
    Asked columns (unknownTables known (relation :: relations)) exchanges (some e) := by
  rcases trace_columnsOf h with
    ⟨_, -, -, hnone⟩ | ⟨hunknown, reply, rfl, ⟨_, -, hnone⟩ | ⟨e', htold, hresult⟩⟩
  · cases hnone
  · cases hnone
  · cases hresult
    rw [unknownTables_of_unknown hunknown []]
    exact .failed htold

/-- The related tables that are not known are asked for, and their catalogs hold what is told. -/
theorem trace_relatedOf {known : Known} {relations : List Relation}
    {result : Except Error (List RelatedCatalog)}
    (h : (relatedOf known relations).Trace exchanges result) :
    ∃ columns, known.Within columns ∧
      Asked columns (unknownTables known relations) exchanges (failureOf result) ∧
      ∀ related, result = .ok related →
        related = relations.map fun relation => .ofColumns relation (columns relation.table) := by
  induction relations generalizing known exchanges result with
  | nil =>
      obtain ⟨rfl, rfl⟩ := Work.trace_pure h
      refine ⟨_, known.within_getD, .done, ?_⟩
      intro related hrelated
      exact (Except.ok.inj hrelated).symm
  | cons relation relations ih =>
      unfold relatedOf at h
      rcases Work.trace_bind h with
        ⟨e, hcolumns, rfl⟩ | ⟨⟨fields, known'⟩, before, after, hcolumns, hrest, rfl⟩
      · refine ⟨_, known.within_getD, asked_of_columnsOf_error hcolumns _, ?_⟩
        intro related hrelated
        cases hrelated
      · rcases Work.trace_bind hrest with
          ⟨e, hrelated, rfl⟩ | ⟨related, middle, last, hrelated, hlast, rfl⟩
        · obtain ⟨columns, hwithin, hasked, -⟩ := ih hrelated
          obtain ⟨hbefore, -, hasked⟩ := asked_of_columnsOf hcolumns hwithin hasked
          refine ⟨columns, hbefore, hasked, ?_⟩
          intro related hrelated
          cases hrelated
        · obtain ⟨rfl, rfl⟩ := Work.trace_pure hlast
          obtain ⟨columns, hwithin, hasked, hvalue⟩ := ih hrelated
          obtain ⟨hbefore, hfields, hasked⟩ := asked_of_columnsOf hcolumns hwithin hasked
          rw [List.append_nil]
          refine ⟨columns, hbefore, hasked, ?_⟩
          intro all hall
          rw [← Except.ok.inj hall, hvalue related rfl, List.map_cons, hfields]

/-- Once the layer's own table is known, the other tables of its relations are not. -/
theorem unknownTables_own (layer : Layer) (columns : List Field) :
    unknownTables (Dictionary.insert .empty layer.table columns) layer.relations =
      layer.relatedTables := by
  apply List.filter_congr
  intro table _
  rw [Dictionary.find?_insert]
  by_cases htable : table = layer.table
  · simp [htable]
  · simp [htable, Dictionary.find?, Dictionary.empty]

/-- Everything that can be said to look up a catalog, and how that ends. -/
theorem trace_lookup {layer : Layer} {result : Except Error Catalog}
    (h : (lookup layer).Trace exchanges result) : LookedUp layer exchanges result := by
  unfold lookup at h
  rcases Work.trace_bind h with
    ⟨e, hown, rfl⟩ | ⟨⟨fields, known⟩, before, after, hown, hrest, rfl⟩
  · rcases trace_columnsOf hown with ⟨_, hknown, -, -⟩ | ⟨-, reply, rfl, ⟨_, -, hnone⟩ | ⟨e', htold, he⟩⟩
    · cases hknown
    · cases hnone
    · cases he
      exact .failed htold
  rcases trace_columnsOf hown with
    ⟨_, hknown, -, -⟩ | ⟨hunknown, reply, rfl, ⟨fields', htold, hfields⟩ | ⟨_, -, hnone⟩⟩
  · cases hknown
  · cases hfields
    dsimp only at hrest
    split at hrest
    case isTrue hempty =>
      obtain ⟨rfl, rfl⟩ := Work.trace_throw hrest
      rw [List.isEmpty_iff] at hempty
      subst hempty
      exact .missing htold
    case isFalse hempty =>
      rw [List.isEmpty_iff] at hempty
      have hown {columns : String → List Field}
          (hwithin : Known.Within (Dictionary.insert .empty layer.table fields) columns) :
          columns layer.table = fields := (hwithin.of_insert hunknown).2
      rcases Work.trace_bind hrest with
        ⟨e, hrelated, rfl⟩ | ⟨related, middle, last, hrelated, hlast, rfl⟩
      · obtain ⟨columns, hwithin, hasked, -⟩ := trace_relatedOf hrelated
        obtain rfl := hown hwithin
        rw [unknownTables_own] at hasked
        exact .unrelated htold hempty hasked
      · obtain ⟨rfl, rfl⟩ := Work.trace_pure hlast
        obtain ⟨columns, hwithin, hasked, hvalue⟩ := trace_relatedOf hrelated
        obtain rfl := hown hwithin
        rw [unknownTables_own] at hasked
        rw [hvalue related rfl, List.append_nil]
        exact .found htold hempty hasked
  · cases hnone

end Catalog

end GeoLayers
