import GeoLayers.Proofs.Catalog.Names
import GeoLayers.Proofs.Query.References
import GeoLayers.Proofs.Server.Validation

/-!
Which column the values for a classification are read from. The name of the field is looked up without
the blanks around it and without quotes, but it is written into the statement as it stands, so the
statement reads a column of the layer only if the name is not misread. Classes of numbers are made of
a column that is looked up as it stands as well.
-/

namespace GeoLayers.Classification

open Database

/-- A statement for values: the column that is selected, that must not be null and that the rows are
sorted by, and a further condition. -/
structure ValuesQuery where
  distinct : Bool
  column : Reference
  condition : Option String
  deriving DecidableEq, Repr

def ValuesQuery.text (q : ValuesQuery) (table : String) : String :=
  "SELECT " ++ (if q.distinct then "DISTINCT " else "") ++ q.column.text ++ " AS value FROM " ++
    quoteName table ++ " AS " ++ quoteName sourceAlias ++ " WHERE " ++ q.column.text ++
    " IS NOT NULL" ++ (q.condition.elim "" fun condition => " AND (" ++ condition ++ ")") ++
    " ORDER BY " ++ q.column.text

/-- A field is misread: no column is called by its name as it stands, but without the blanks around it
and without quotes it is nothing at all, a star or the name of a column. -/
inductive FieldMisread (catalog : Catalog) (field : String) : Prop
  | nothing (h : bareName field = "") (hnone : field ∉ catalog.fields.map (·.name))
  | star (h : bareName field = "*") (hspelled : field ≠ "*")
      (hnone : field ∉ catalog.fields.map (·.name))
  | other (h : bareName field ∈ catalog.fields.map (·.name)) (hspelled : bareName field ≠ field)
      (hnone : field ∉ catalog.fields.map (·.name))

/-- The field whose values a classification is made of. -/
def Definition.field? : Definition → Option String
  | .uniqueValues fields => fields.head?
  | .classBreaks field _ _ => some field

/-- Whether a classification is one by classes of numbers. -/
def Definition.hasClasses : Definition → Bool
  | .uniqueValues _ => false
  | .classBreaks _ _ _ => true

/-- A field whose values can be asked for. -/
structure Drawable (definition : Definition) (layer : Layer) (catalog : Catalog) (field : String) :
    Prop where
  asked : definition.field? = some field
  passes : catalog.Passes false field
  not_star : field ≠ "*"
  not_geometry : field ≠ layer.geometryField
  numeric (h : definition.hasClasses = true) : ∃ column, catalog.field? field = some column ∧
    Definition.isNumeric column.type = true

variable {definition : Definition} {layer : Layer} {catalog : Catalog} {clause : Option String}
  {field : String}

/-- A condition that was given as a text, if it passes its check. -/
def checkedClause (catalog : Catalog) (clause : Option String) : Except Error (Option Where) :=
  clause.elim (.ok none) (Where.check catalog false)

/-- The statement for the values of a column. -/
def ValuesQuery.statement (q : ValuesQuery) (table : String) : Statement := ⟨q.text table, []⟩

theorem valuesStatement_eq (layer : Layer) (catalog : Catalog) (field : String)
    (clause : Option String) (distinct : Bool) :
    valuesStatement layer catalog field clause distinct =
      catalog.checkNames [field] false >>= fun _ =>
        if field = "*" ∨ field = layer.geometryField then .error (.unknownFields [field])
        else checkedClause catalog clause >>= fun condition =>
          .ok ((ValuesQuery.mk distinct ⟨sourceAlias, field⟩
            (condition.map (·.text))).statement layer.table) := by
  unfold valuesStatement
  refine congrArg _ (funext fun _ => ?_)
  by_cases hrefused : field = "*" ∨ field = layer.geometryField
  · rw [if_pos hrefused, if_pos hrefused]
    rfl
  · rw [if_neg hrefused, if_neg hrefused]
    cases clause with
    | none =>
        have hnone : checkedClause catalog none = pure none := rfl
        dsimp only
        rw [hnone]
        refine congrArg _ (funext fun condition => ?_)
        cases condition <;> rfl
    | some text =>
        refine congrArg _ (funext fun condition => ?_)
        cases condition <;> rfl

theorem valuesStatement_eq_ok_iff {distinct : Bool} {s : Statement} :
    valuesStatement layer catalog field clause distinct = .ok s ↔
      (catalog.Passes false field ∧ field ≠ "*" ∧ field ≠ layer.geometryField) ∧
        ∃ condition, checkedClause catalog clause = .ok condition ∧
          (ValuesQuery.mk distinct ⟨sourceAlias, field⟩
            (condition.map (·.text))).statement layer.table = s := by
  have hpasses : catalog.Passes false field ↔ catalog.checkNames [field] false = .ok () := by
    rw [Catalog.checkNames_eq_ok_iff]
    simp
  rw [hpasses, valuesStatement_eq]
  cases catalog.checkNames [field] false with
  | error e => simp [bind, Except.bind]
  | ok =>
      simp only [bind, Except.bind, true_and]
      by_cases hrefused : field = "*" ∨ field = layer.geometryField
      · have hnot : ¬(field ≠ "*" ∧ field ≠ layer.geometryField) := by
          rw [← not_or, Classical.not_not]
          exact hrefused
        simp [hrefused, hnot]
      · rw [if_neg hrefused, ← not_or]
        cases checkedClause catalog clause with
        | error e => simp
        | ok condition => simp [hrefused]

namespace Definition

theorem statement_eq_valuesStatement (hasked : definition.field? = some field)
    (hnumeric : definition.hasClasses = true → ∃ column, catalog.field? field = some column ∧
      isNumeric column.type = true) :
    definition.statement layer catalog clause =
      valuesStatement layer catalog field clause (!definition.hasClasses) := by
  cases definition with
  | uniqueValues fields =>
      cases fields with
      | nil => cases hasked
      | cons first fields =>
          obtain rfl := Option.some.inj hasked
          rfl
  | classBreaks first method count =>
      obtain rfl := Option.some.inj hasked
      obtain ⟨column, hcolumn, hnumeric⟩ := hnumeric rfl
      rw [statement, hcolumn]
      exact if_pos hnumeric

theorem asked_of_statement {s : Statement}
    (h : definition.statement layer catalog clause = .ok s) :
    ∃ field, definition.field? = some field ∧
      (definition.hasClasses = true → ∃ column, catalog.field? field = some column ∧
        isNumeric column.type = true) := by
  cases definition with
  | uniqueValues fields =>
      cases fields with
      | nil => cases h
      | cons first fields => exact ⟨first, rfl, Bool.noConfusion⟩
  | classBreaks first method count =>
      refine ⟨first, rfl, fun _ => ?_⟩
      rw [statement] at h
      split at h
      case h_1 => cases h
      case h_2 column hcolumn =>
        split at h
        case isTrue hnumeric => exact ⟨column, hcolumn, hnumeric⟩
        case isFalse => cases h

/-- The values are asked for exactly if the field is one whose values can be asked for, and the further
condition passes its check. -/
theorem statement_eq_ok_iff {s : Statement} :
    definition.statement layer catalog clause = .ok s ↔
      ∃ field, Drawable definition layer catalog field ∧
        ∃ condition, checkedClause catalog clause = .ok condition ∧
          (ValuesQuery.mk (!definition.hasClasses) ⟨sourceAlias, field⟩
            (condition.map (·.text))).statement layer.table = s := by
  constructor
  · intro h
    obtain ⟨field, hasked, hnumeric⟩ := asked_of_statement h
    rw [statement_eq_valuesStatement hasked hnumeric, valuesStatement_eq_ok_iff] at h
    obtain ⟨⟨hpasses, hstar, hgeometry⟩, hcondition⟩ := h
    exact ⟨field, ⟨hasked, hpasses, hstar, hgeometry, hnumeric⟩, hcondition⟩
  · rintro ⟨field, hdrawable, hcondition⟩
    rw [statement_eq_valuesStatement hdrawable.asked hdrawable.numeric, valuesStatement_eq_ok_iff]
    exact ⟨⟨hdrawable.passes, hdrawable.not_star, hdrawable.not_geometry⟩, hcondition⟩

end Definition

/-- A field whose values can be asked for is the name of a column unless it is misread. -/
theorem Drawable.mem_iff (h : Drawable definition layer catalog field) :
    field ∈ catalog.fields.map (·.name) ↔ ¬FieldMisread catalog field := by
  constructor
  · rintro hmem (⟨-, hnone⟩ | ⟨-, -, hnone⟩ | ⟨-, -, hnone⟩) <;> exact hnone hmem
  · intro hread
    by_contra hnone
    apply hread
    rcases h.passes with hempty | hstar | hcolumn | ⟨hrelated, -⟩
    · exact .nothing hempty hnone
    · exact .star hstar h.not_star hnone
    · have hmem := Catalog.hasField_iff.1 hcolumn
      exact .other hmem (fun heq => hnone (heq ▸ hmem)) hnone
    · cases hrelated

/-- A name that is looked up as it stands is not misread. -/
theorem not_fieldMisread (hnonempty : field ≠ "") (hbare : bareName field = field) :
    ¬FieldMisread catalog field := by
  rintro (⟨h, -⟩ | ⟨h, hspelled, -⟩ | ⟨-, hspelled, -⟩)
  · exact hnonempty (hbare.symm.trans h)
  · exact hspelled (hbare.symm.trans h)
  · exact hspelled hbare

/-- What is asked of the database for a classification. -/
structure Asks (definition : Definition) (layer : Layer) (catalog : Catalog) (q : ValuesQuery) :
    Prop where
  source : q.column.source = sourceAlias
  drawable : Drawable definition layer catalog q.column.column
  distinct : q.distinct = !definition.hasClasses
  genuine_iff : q.column.column ∈ catalog.fields.map (·.name) ↔
    ¬FieldMisread catalog q.column.column
  /-- The column is there for classes of numbers, and if its name is looked up as it stands. -/
  genuine (h : definition.hasClasses = true ∨
      q.column.column ≠ "" ∧ bareName q.column.column = q.column.column) :
    q.column.column ∈ catalog.fields.map (·.name)

theorem Drawable.asks (h : Drawable definition layer catalog field) (condition : Option String) :
    Asks definition layer catalog ⟨!definition.hasClasses, ⟨sourceAlias, field⟩, condition⟩ where
  source := rfl
  drawable := h
  distinct := rfl
  genuine_iff := h.mem_iff
  genuine := by
    rintro (hclasses | ⟨hnonempty, hbare⟩)
    · obtain ⟨column, hcolumn, -⟩ := h.numeric hclasses
      exact List.mem_map.2 ⟨column, List.mem_of_find?_eq_some hcolumn, Catalog.name_of_field? hcolumn⟩
    · exact h.mem_iff.2 (not_fieldMisread hnonempty hbare)

/-- A classification either fails with nothing sent, or it sends one statement, which reads a column
other than the one with the geometry, and a column of numbers for classes. The column is one of the
layer's exactly if its name is not misread. -/
theorem Definition.load_genuine_iff {σ : Type} (definition : Definition) (layer : Layer)
    (catalog : Catalog) (clause : Option String) (responder : Responder σ) (state : σ) :
    let record := Session.run responder (ExceptT.run (definition.load layer catalog clause)) state
    (record.exchanges = [] ∧ ∃ e, record.value = .error e) ∨
      ∃ q reply, Asks definition layer catalog q ∧
        record.exchanges = [(.run (q.statement layer.table).asJsonRows [.json], reply)] := by
  intro record
  have htrace : (definition.load layer catalog clause).Trace record.exchanges record.value :=
    Work.trace_run responder _ state
  rcases Work.trace_check htrace with ⟨e, -, hnone, herror⟩ | ⟨s, hstatement, hload⟩
  · exact .inl ⟨hnone, e, herror⟩
  · obtain ⟨field, hdrawable, condition, -, rfl⟩ := statement_eq_ok_iff.1 hstatement
    have hasks := hdrawable.asks (condition.map (·.text))
    right
    rcases Work.trace_bind hload with ⟨e, hrows, -⟩ | ⟨rows, sent, rest, hrows, hdone, hexchanges⟩
    · obtain ⟨reply, hsent, -⟩ := trace_loadRows hrows
      exact ⟨_, reply, hasks, hsent⟩
    · obtain ⟨reply, rfl, -⟩ := trace_loadRows hrows
      obtain ⟨rfl, -⟩ := Work.trace_pure hdone
      exact ⟨_, reply, hasks, hexchanges⟩

def wells : Layer where
  id := 0
  name := "Wells"
  table := "db_wells"
  kind := .point

def wellsCatalog : Catalog :=
  .ofColumns wells [.ofColumn "db_id" "integer" false, .ofColumn "name" "text" true] []

/-- A database that answers all statements, with no rows. -/
def rowless : Responder Unit where
  connect _ := (true, ())
  reply _ _ := (.ok {}, ())

/-- What is said for the single values of a field of the wells. -/
def saidForValues (field : String) : List Command :=
  (Session.run rowless (ExceptT.run ((Definition.uniqueValues [field]).load wells wellsCatalog none))
    ()).exchanges.map Prod.fst

/-- The values of a column that is not there are asked for if a name stands between quotes, and if
there is no name. -/
theorem misread_fields_asked :
    ("\"name\"" ∉ wellsCatalog.fields.map (·.name) ∧ saidForValues "\"name\"" =
      [.run ⟨"SELECT to_jsonb(q) AS row FROM (SELECT DISTINCT \"source\".\"\"\"name\"\"\" AS value " ++
        "FROM \"db_wells\" AS \"source\" WHERE \"source\".\"\"\"name\"\"\" IS NOT NULL " ++
        "ORDER BY \"source\".\"\"\"name\"\"\") AS q", []⟩ [.json]]) ∧
    ("" ∉ wellsCatalog.fields.map (·.name) ∧ saidForValues "" =
      [.run ⟨"SELECT to_jsonb(q) AS row FROM (SELECT DISTINCT \"source\".\"\" AS value " ++
        "FROM \"db_wells\" AS \"source\" WHERE \"source\".\"\" IS NOT NULL " ++
        "ORDER BY \"source\".\"\") AS q", []⟩ [.json]]) := by
  refine ⟨⟨by decide, rfl⟩, by decide, rfl⟩

end GeoLayers.Classification
