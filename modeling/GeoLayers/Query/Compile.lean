import GeoLayers.Query.Fields
import GeoLayers.Query.Request
import GeoLayers.Statement.Basic
import GeoLayers.Statement.Quote

/-!
The statement that answers a query. Names are checked against the catalog before anything is
written; values become parameters.
-/

namespace GeoLayers

open Statement (Piece)

/-- What a query's rows hold. -/
inductive Projection where
  | count
  | ids
  | fields (names : List String) (geometry : Bool)
  deriving DecidableEq, Repr

/-- A field in a statement: a column of the layer's table, or of the table with the title before
the period. -/
def fieldText (name : String) : String :=
  match Text.cutAt '.' name with
  | some (title, column) => columnOf title column
  | none => columnOf sourceAlias name

/-- A query whose names were checked. -/
structure Plan where
  /-- The fields that were asked for, with the object id. -/
  fields : List String
  sort : List SortField
  condition : Option Where
  projection : Projection

namespace Plan

/-- The name of a field that stands for several. -/
def isStar (name : String) : Bool := name == "*" || (Text.stripEnd ".*" name).isSome

/-- The fields that are asked for, by their bare names. -/
def requestedFields (request : QueryRequest) : List String :=
  match (request.fields.map bareName).filter (· != "") with
  | [] => ["*"]
  | fields => fields

/-- Checks the names of a query that does not ask for ids only. -/
def checkFields (catalog : Catalog) (request : QueryRequest) (fields : List String) :
    Except Error Unit := do
  catalog.checkNames fields request.includesRelated
  match request.sort.find? fun field => isStar field.name with
  | some field => throw (.unknownFields [field.name])
  | none => catalog.checkNames (request.sort.map (·.name)) request.includesRelated

/-- Checks a query. Asking for ids comes before asking for a count. -/
def make (layer : Layer) (catalog : Catalog) (request : QueryRequest) : Except Error Plan := do
  let fields := requestedFields request
  if !request.idsOnly then checkFields catalog request fields
  let condition ← match request.clause with
    | some text => Where.check catalog request.includesRelated text
    | none => pure none
  if request.idsOnly then
    pure { fields := [layer.objectIdField], sort := [], condition, projection := .ids }
  else if request.countOnly then
    pure { fields := [], sort := [], condition, projection := .count }
  else
    let fields :=
      if fields.contains layer.objectIdField then fields else layer.objectIdField :: fields
    pure {
      fields, sort := request.sort, condition
      projection := .fields (expandFields layer catalog fields) request.withGeometry }

/-- The titles of the relations that a query refers to. -/
def titles (plan : Plan) : List String :=
  (plan.fields ++ plan.sort.map (·.name)).filterMap
      (fun name => (Text.cutAt '.' name).map Prod.fst) ++
    (plan.condition.map Where.titles).getD []

/-- The relations that a query refers to. -/
def relations (layer : Layer) (plan : Plan) : List Relation :=
  layer.relations.filter fun relation => plan.titles.contains relation.title

/-- What is selected. -/
def selection (layer : Layer) (request : QueryRequest) : Projection → List Piece
  | .count => [.text "COUNT(0) AS \"count\""]
  | .ids => [.text ("DISTINCT " ++ columnOf sourceAlias layer.objectIdField)]
  | .fields names geometry =>
    let columns := names.map fun name => [.text (fieldText name ++ " AS " ++ quoteName name)]
    let shape :=
      if geometry then
        [[.text ("ST_AsText(ST_Transform(" ++ columnOf sourceAlias layer.geometryField ++ ", "),
          .bind (.int request.outSrid), .text (")) AS " ++ quoteName geometryColumn)]]
      else []
    Statement.between ", " (columns ++ shape)

/-- The join of a related table. -/
def joinText (relation : Relation) : String :=
  "LEFT OUTER JOIN " ++ quoteName relation.table ++ " AS " ++ quoteName relation.title ++ " ON " ++
    columnOf sourceAlias relation.sourceColumn ++ " = " ++
    columnOf relation.title relation.targetColumn

/-- The condition on the time. Without any condition the first time of the layer is asked for. -/
def timeCondition (layer : Layer) (request : QueryRequest) (plan : Plan) : List Piece :=
  match layer.timeField? with
  | none => []
  | some field =>
    let column := columnOf sourceAlias field
    match request.time with
    | some range =>
      if range.isInstant then
        [.text (" AND " ++ column ++ " = "), .bind (.timestamp range.start), .text "::date"]
      else
        [.text (" AND " ++ column ++ " BETWEEN "), .bind (.timestamp range.start),
          .text "::date AND ", .bind (.timestamp range.stop), .text "::date"]
    | none =>
      if plan.condition.isNone && plan.projection != .count then
        [.text (" AND " ++ column ++ " = (SELECT MIN(" ++ quoteName field ++ ") FROM " ++
          quoteName layer.table ++ ")")]
      else []

/-- The condition on the object ids. -/
def idCondition (layer : Layer) (request : QueryRequest) : List Piece :=
  match request.objectIds with
  | [] => []
  | ids =>
    .text (" AND " ++ columnOf sourceAlias layer.objectIdField ++ " IN (") ::
      Statement.between ", " (ids.map fun id => [.bind (.bigInt id)]) ++ [.text ")"]

/-- The condition on the place. -/
def extentCondition (layer : Layer) (request : QueryRequest) : List Piece :=
  match request.extent with
  | none => []
  | some extent =>
    [.text (" AND ST_Intersects(" ++ columnOf sourceAlias layer.geometryField ++
      ", ST_GeomFromText("), .bind (.text extent), .text (", " ++ toString webMercator ++ "))")]

/-- The conditions on the rows. -/
def conditions (layer : Layer) (request : QueryRequest) (plan : Plan) : List Piece :=
  let clause := match plan.condition with
    | some condition => [.text (" AND (" ++ condition.text ++ ")")]
    | none => []
  .text "WHERE 1=1" :: clause ++ timeCondition layer request plan ++ idCondition layer request ++
    extentCondition layer request

/-- The columns that rows are joined on, those of the highest relation first, each once. -/
def joinOrder (relations : List Relation) : List String :=
  let sorted := relations.mergeSort fun a b => b.index ≤ a.index
  firstOccurrences (sorted.map (·.sourceColumn))

/-- The fields that rows are sorted by. The object id is always among them, so that the order is
total. -/
def order (layer : Layer) (plan : Plan) (joined : List Relation) : List SortField :=
  match plan.projection with
  | .count => []
  | .ids => [⟨layer.objectIdField, none⟩]
  | .fields _ _ =>
    let fields := if plan.sort.isEmpty then (joinOrder joined).map (⟨·, none⟩) else plan.sort
    if fields.any (·.name == layer.objectIdField) then fields
    else fields ++ [⟨layer.objectIdField, none⟩]

/-- A field that rows are sorted by, in a statement. -/
def sortText (field : SortField) : String :=
  match field.direction with
  | some .ascending => fieldText field.name ++ " ASC"
  | some .descending => fieldText field.name ++ " DESC"
  | none => fieldText field.name

/-- The size of the page, with one row more that shows whether another page follows. The sum is a
word of 64 bits, and nothing looks whether it overflows. -/
def limitPieces (request : QueryRequest) : List Piece :=
  match request.pageLimit? with
  | some limit => [.text "LIMIT ", .bind (.bigInt (Number.wrapInt64 (limit + 1)))]
  | none => []

/-- The start of the page. -/
def offsetPieces (request : QueryRequest) : List Piece :=
  if request.isPaged && 0 < request.offset then [.text "OFFSET ", .bind (.bigInt request.offset)]
  else []

/-- The pieces of the statement. -/
def pieces (layer : Layer) (request : QueryRequest) (plan : Plan) : List Piece :=
  let joined := plan.relations layer
  let sorted := (plan.order layer joined).map sortText
  let order := if sorted.isEmpty then "" else "ORDER BY " ++ ", ".intercalate sorted
  [.text "SELECT "] ++ selection layer request plan.projection ++
    [.text (" FROM " ++ quoteName layer.table ++ " AS " ++ quoteName sourceAlias ++ " "),
      .text (" ".intercalate (joined.map joinText)), .text " "] ++
    conditions layer request plan ++ [.text (" " ++ order ++ " ")] ++ limitPieces request ++
    [.text " "] ++ offsetPieces request

end Plan

/-- The statement that answers a query. -/
def compile (layer : Layer) (catalog : Catalog) (request : QueryRequest) :
    Except Error Statement := do
  let plan ← Plan.make layer catalog request
  pure (Statement.ofPieces (plan.pieces layer request))

end GeoLayers
