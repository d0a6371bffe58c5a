import GeoLayers.Proofs.Query.Layout

/-!
The columns that a query's statement refers to outside of its conditions: those that it selects,
those that it joins on and those that it sorts by. The text of a statement is written from them and
from nothing else, its conditions and its page apart.
-/

namespace GeoLayers

open Database

/-- A column of the table with an alias. -/
structure Reference where
  source : String
  column : String
  deriving DecidableEq, Repr

def Reference.text (r : Reference) : String := columnOf r.source r.column

/-- The column that a field is written as. -/
def fieldReference (name : String) : Reference :=
  match Text.cutAt '.' name with
  | some (title, column) => ⟨title, column⟩
  | none => ⟨sourceAlias, name⟩

/-- What a statement selects. -/
inductive SelectList where
  | count
  | distinct (id : Reference)
  /-- Columns under names, and perhaps a column as the text of a geometry. -/
  | columns (items : List (Reference × String)) (geometry : Option Reference)

namespace SelectList

def text (srid : String) : SelectList → String
  | .count => "COUNT(0) AS \"count\""
  | .distinct id => "DISTINCT " ++ id.text
  | .columns items geometry =>
    ", ".intercalate (items.map (fun (r, name) => r.text ++ " AS " ++ quoteName name) ++
      geometry.toList.map fun r =>
        "ST_AsText(ST_Transform(" ++ r.text ++ ", " ++ srid ++ ")) AS " ++ quoteName geometryColumn)

/-- The columns that are selected, with their names. -/
def items : SelectList → List (Reference × String)
  | .columns items _ => items
  | _ => []

def references : SelectList → List Reference
  | .count => []
  | .distinct id => [id]
  | .columns items geometry => items.map Prod.fst ++ geometry.toList

end SelectList

/-- What a statement refers to outside of its conditions. -/
structure Sources where
  select : SelectList
  joined : List Relation
  /-- The columns that the rows are sorted by, with the fields that they were written for. -/
  sorted : List (Reference × SortField)

namespace Sources

def sortText : Reference × SortField → String
  | (r, field) =>
    match field.direction with
    | some .ascending => r.text ++ " ASC"
    | some .descending => r.text ++ " DESC"
    | none => r.text

/-- A join compares a column of the layer's own table with one of the related table. -/
def joinReferences (relation : Relation) : List Reference :=
  [⟨sourceAlias, relation.sourceColumn⟩, ⟨relation.title, relation.targetColumn⟩]

def joinText (relation : Relation) : String :=
  "LEFT OUTER JOIN " ++ quoteName relation.table ++ " AS " ++ quoteName relation.title ++ " ON " ++
    " = ".intercalate ((joinReferences relation).map Reference.text)

def references (q : Sources) : List Reference :=
  q.select.references ++ q.joined.flatMap joinReferences ++ q.sorted.map Prod.fst

/-- The text of a statement with the number of the reference system that geometries are wanted in,
the conditions and the page as they are written. -/
def text (q : Sources) (table srid conditions page : String) : String :=
  "SELECT " ++ q.select.text srid ++ " FROM " ++ quoteName table ++ " AS " ++ quoteName sourceAlias ++
    " " ++ " ".intercalate (q.joined.map joinText) ++ " " ++ conditions ++ " " ++
    (if q.sorted.isEmpty then "" else "ORDER BY " ++ ", ".intercalate (q.sorted.map sortText)) ++
    " " ++ page

end Sources

namespace Plan

/-- What the statement of a plan refers to. -/
def sources (layer : Layer) (plan : Plan) : Sources where
  select :=
    match plan.projection with
    | .count => .count
    | .ids => .distinct ⟨sourceAlias, layer.objectIdField⟩
    | .fields names geometry =>
      .columns (names.map fun name => (fieldReference name, name))
        (if geometry then some ⟨sourceAlias, layer.geometryField⟩ else none)
  joined := plan.relations layer
  sorted := (plan.order layer (plan.relations layer)).map fun field =>
    (fieldReference field.name, field)

/-- The conditions on the rows. -/
def conditionLayout (layer : Layer) (request : QueryRequest) (plan : Plan) : List Part :=
  .text "WHERE 1=1" ::
    (request.conjuncts layer plan.condition).flatMap (Conjunct.layout layer request)

end Plan

/-- The size and the start of the page. -/
def QueryRequest.pageLayout (request : QueryRequest) : List Part :=
  (if request.pageLimit?.isSome then [.text "LIMIT ", .value .limit] else []) ++ [.text " "] ++
    (if request.isPaged && 0 < request.offset then [.text "OFFSET ", .value .offset] else [])

/-- The text of some parts. -/
def Part.renderAll (values : List BoundValue) (parts : List Part) : String :=
  String.join (parts.map (Part.render values))

variable {layer : Layer} {catalog : Catalog} {request : QueryRequest} {plan : Plan} {s : Statement}

theorem text_fieldReference (name : String) : (fieldReference name).text = fieldText name := by
  unfold fieldReference fieldText
  cases Text.cutAt '.' name <;> rfl

theorem renderAll_append (values : List BoundValue) (parts more : List Part) :
    Part.renderAll values (parts ++ more) =
      Part.renderAll values parts ++ Part.renderAll values more := by
  rw [Part.renderAll, List.map_append, String.join_append]
  rfl

theorem renderAll_intercalate (values : List BoundValue) (sep : String) (items : List (List Part)) :
    Part.renderAll values ([.text sep].intercalate items) =
      sep.intercalate (items.map (Part.renderAll values)) := by
  induction items with
  | nil => rfl
  | cons item items ih =>
      cases items with
      | nil => simp [List.intercalate]
      | cons next items =>
          rw [List.map_cons] at ih
          rw [List.intercalate_cons_cons, renderAll_append, renderAll_append, ih, List.map_cons,
            List.map_cons, String.intercalate_cons_cons]
          simp [Part.renderAll, Part.render]

theorem renderAll_selectionLayout (values : List BoundValue) :
    Part.renderAll values (Plan.selectionLayout layer plan.projection) =
      (plan.sources layer).select.text (Part.render values (.value .outSrid)) := by
  unfold Plan.sources
  cases plan.projection with
  | count => rfl
  | ids => simp [Part.renderAll, Plan.selectionLayout, Part.render, SelectList.text, Reference.text]
  | fields names geometry =>
      have hcolumns : (names.map fun name =>
            [Part.text (fieldText name ++ " AS " ++ quoteName name)]).map (Part.renderAll values) =
          (names.map fun name => (fieldReference name, name)).map fun (r, name) =>
            r.text ++ " AS " ++ quoteName name := by
        rw [List.map_map, List.map_map]
        apply List.map_congr_left
        intro name _
        simp [Part.renderAll, Part.render, text_fieldReference]
      rw [Plan.selectionLayout, renderAll_intercalate, List.map_append, hcolumns]
      cases geometry with
      | false => rfl
      | true =>
          simp only [SelectList.text, if_true, Option.toList_some, List.map_singleton]
          simp only [Part.renderAll, Part.render, Reference.text, List.map_cons, List.map_nil,
            String.join_cons, String.join_nil, String.append_assoc, String.append_empty]

theorem map_sortText : (plan.sources layer).sorted.map Sources.sortText =
    (plan.order layer (plan.relations layer)).map Plan.sortText := by
  rw [Plan.sources, List.map_map]
  apply List.map_congr_left
  rintro ⟨name, direction⟩ -
  have htext := text_fieldReference name
  cases direction with
  | none => exact htext
  | some direction =>
      cases direction with
      | ascending => exact congrArg (· ++ " ASC") htext
      | descending => exact congrArg (· ++ " DESC") htext

theorem joinText_eq : Sources.joinText = Plan.joinText := by
  funext relation
  have hpair (left right : String) : " = ".intercalate [left, right] = left ++ " = " ++ right := by
    rw [String.intercalate_cons_cons, String.intercalate_singleton]
  unfold Sources.joinText Plan.joinText
  simp only [Sources.joinReferences, List.map_cons, List.map_nil, hpair, Reference.text,
    String.append_assoc]

theorem renderAll_layout (values : List BoundValue) :
    Part.renderAll values (plan.layout layer request) =
      (plan.sources layer).text layer.table (Part.render values (.value .outSrid))
        (Part.renderAll values (plan.conditionLayout layer request))
        (Part.renderAll values request.pageLayout) := by
  have hlayout : plan.layout layer request =
      .text "SELECT " :: Plan.selectionLayout layer plan.projection ++
        [.text (" FROM " ++ quoteName layer.table ++ " AS " ++ quoteName sourceAlias ++ " "),
          .text (" ".intercalate ((plan.relations layer).map Plan.joinText)), .text " "] ++
        plan.conditionLayout layer request ++ [.text (" " ++ plan.orderText layer ++ " ")] ++
        request.pageLayout := by
    simp only [Plan.layout, Plan.front, Plan.conditionLayout, QueryRequest.pageLayout,
      List.append_assoc, List.cons_append, List.nil_append]
  have htext (text : String) (parts : List Part) :
      Part.renderAll values (.text text :: parts) = text ++ Part.renderAll values parts :=
    String.join_cons
  have hnil : Part.renderAll values [] = "" := rfl
  have hsorted : (plan.sources layer).sorted.isEmpty =
      ((plan.order layer (plan.relations layer)).map Plan.sortText).isEmpty := by
    rw [← map_sortText, List.isEmpty_map]
  have hjoined : (plan.sources layer).joined = plan.relations layer := rfl
  unfold Sources.text
  simp only [hlayout, renderAll_append, List.cons_append, htext, hnil,
    renderAll_selectionLayout, hsorted, map_sortText, joinText_eq, hjoined, Plan.orderText,
    String.append_assoc, String.empty_append]

/-- The text of a statement is written from what it refers to, its conditions and its page. -/
theorem sql_of_compile (h : compile layer catalog request = .ok s) :
    ∃ plan, Plan.make layer catalog request = .ok plan ∧
      s.sql = (plan.sources layer).text layer.table
        (Part.render (request.boundValues layer) (.value .outSrid))
        (Part.renderAll (request.boundValues layer) (plan.conditionLayout layer request))
        (Part.renderAll (request.boundValues layer) request.pageLayout) := by
  obtain ⟨plan, hplan, -, rfl⟩ := compile_layout h
  exact ⟨plan, hplan, renderAll_layout _⟩

end GeoLayers
