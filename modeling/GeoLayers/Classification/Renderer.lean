import GeoLayers.Catalog.Basic
import GeoLayers.Classification.Definition
import GeoLayers.Classification.Natural
import GeoLayers.Query.Page
import GeoLayers.Statement.Basic
import GeoLayers.Statement.Quote
import GeoLayers.Where

/-!
How a layer is drawn by its values: what is asked of the database for a classification, and the
description that its answer gives.
-/

namespace GeoLayers.Classification

/-- The greatest number of values that natural breaks are sought for. -/
def largestSample : Nat := 1000

/-- The breaks for ascending values. -/
def breaksFor {α : Type} [Scalar α] (values : List α) (method : Method) (count : Nat) : List α :=
  match values.head?, values.getLast? with
  | some low, some high =>
    match method with
    | .equalInterval => equalInterval low high count
    | .quantile => quantile values count
    | .naturalBreaks => naturalBreaks (sampleEvenly values largestSample) count
  | _, _ => []

/-- A class of numbers by its bounds. -/
structure ClassRange (α : Type) where
  low : α
  high : α
  deriving Repr, Inhabited

/-- The classes between neighbouring breaks. -/
def classRanges {α : Type} (breaks : List α) : List (ClassRange α) :=
  List.zipWith ClassRange.mk breaks breaks.tail

/-- How a layer is drawn. -/
inductive Renderer where
  | uniqueValues (field : String) (values : List Json)
  | classBreaks (field : String) (method : Method) (least : Float)
      (classes : List (ClassRange Float))
  deriving Inhabited

namespace Renderer

def ofBreaks (field : String) (method : Method) (breaks : List Float) : Renderer :=
  .classBreaks field method (breaks.headD 0) (classRanges breaks)

def toJson : Renderer → Json
  | .uniqueValues field values =>
    .object [("type", .text "uniqueValue"), ("field1", .text field),
      ("uniqueValueInfos", .array (values.map fun value => .object [("value", value)]))]
  | .classBreaks field method least classes =>
    .object [("type", .text "classBreaks"), ("field", .text field),
      ("classificationMethod", .text method.name), ("minValue", .float least),
      ("classBreakInfos", .array (classes.map fun range =>
        .object [("classMinValue", .float range.low), ("classMaxValue", .float range.high)]))]

end Renderer

/-- The statement for the values of a column, in order and without nulls. The name is looked up without
the blanks around it and without quotes, and written as it stands; it cannot be a star or the name of
the column with the geometry. -/
def valuesStatement (layer : Layer) (catalog : Catalog) (field : String) (clause : Option String)
    (distinct : Bool) : Except Error Statement := do
  catalog.checkNames [field] false
  if field = "*" ∨ field = layer.geometryField then throw (.unknownFields [field])
  let condition ← match clause with
    | some text => Where.check catalog false text
    | none => pure none
  let column := columnOf sourceAlias field
  let restriction := match condition with
    | some condition => " AND (" ++ condition.text ++ ")"
    | none => ""
  pure ⟨"SELECT " ++ (if distinct then "DISTINCT " else "") ++ column ++ " AS value FROM " ++
    quoteName layer.table ++ " AS " ++ quoteName sourceAlias ++ " WHERE " ++ column ++
    " IS NOT NULL" ++ restriction ++ " ORDER BY " ++ column, []⟩

namespace Definition

/-- Whether numbers of a type can be cut into classes. -/
def isNumeric : FieldType → Bool
  | .integer | .smallInteger | .double => true
  | _ => false

/-- What is asked of the database for a classification. -/
def statement (definition : Definition) (layer : Layer) (catalog : Catalog)
    (clause : Option String) : Except Error Statement :=
  match definition with
  | .uniqueValues [] => .error (.request .noValueField)
  | .uniqueValues (field :: _) => valuesStatement layer catalog field clause true
  | .classBreaks field _ _ =>
    match catalog.field? field with
    | none => .error (.unknownFields [field])
    | some column =>
      if isNumeric column.type then valuesStatement layer catalog field clause false
      else .error (.request (.notNumeric field))

/-- The description that the values give, one under `value` in each row. -/
def renderer (definition : Definition) (rows : List Attributes) : Renderer :=
  let values := rows.filterMap (·.find? "value")
  match definition with
  | .uniqueValues fields => .uniqueValues (fields.headD "") values
  | .classBreaks field method count =>
    .ofBreaks field method (breaksFor (values.filterMap Json.float?) method count)

/-- How a layer is drawn by a classification: the values are asked for once. -/
def load (definition : Definition) (layer : Layer) (catalog : Catalog) (clause : Option String) :
    Database.Work Renderer := do
  let statement ← definition.statement layer catalog clause
  let rows ← loadRows statement
  pure (definition.renderer rows)

end Definition

end GeoLayers.Classification
