import GeoLayers.Edit.Bind
import GeoLayers.Geometry.Conversion
import GeoLayers.Statement.Quote

/-!
The statements that change features. An insertion gives a value for every column but the object id
and the geometry; an update changes what it is given, of the row with one object id.
-/

namespace GeoLayers.Edit

open Statement (Piece)

/-- The columns that an insertion gives values for. -/
def insertable (layer : Layer) (catalog : Catalog) : List Field :=
  catalog.fields.filter fun field =>
    field.name != layer.objectIdField && field.name != layer.geometryField

/-- The condition that picks the row with an object id. -/
def wherePieces (layer : Layer) (objectId : Int) : List Piece :=
  [.text (" WHERE " ++ quoteName layer.objectIdField ++ " = "), .bind (.bigInt objectId)]

/-- The parameters of columns, each from its attribute. -/
def bindAll (attributes : Attributes) (fields : List Field) : Except Error (List Bind) :=
  fields.mapM fun field => bindValue field ((attributes.find? field.name).getD .null)

/-- The statement that adds a feature with the given attributes. Its answer is the object id. -/
def insertStatement (layer : Layer) (catalog : Catalog) (attributes : Attributes) :
    Except Error Statement := do
  let fields := insertable layer catalog
  let unknown := attributes.keys.filter fun key => !fields.any (·.name == key)
  if !unknown.isEmpty then throw (.unknownAttributes unknown)
  let absent := (fields.map (·.name)).filter fun name => !attributes.contains name
  if !absent.isEmpty then throw (.missingAttributes absent)
  let binds ← bindAll attributes fields
  let content :=
    if fields.isEmpty then [.text " DEFAULT VALUES"]
    else
      .text (" (" ++ ", ".intercalate (fields.map fun field => quoteName field.name) ++
          ") VALUES (") ::
        Statement.between ", " (binds.map fun bind => [.bind bind]) ++ [.text ")"]
  pure (Statement.ofPieces
    (.text ("INSERT INTO " ++ quoteName layer.table) :: content ++
      [.text (" RETURNING " ++ quoteName layer.objectIdField ++ "::bigint AS object_id")]))

/-- The object id among attributes. -/
def objectIdOf (layer : Layer) (attributes : Attributes) : Except Error Int :=
  match (attributes.find? layer.objectIdField).filter fun value => !value.isNull with
  | none => .error (.missingAttributes [layer.objectIdField])
  | some value =>
    match wholeValue? value with
    | some n => .ok n
    | none => .error (.request (.objectIdValue value))

/-- The attributes that an update changes. -/
def changed (layer : Layer) (attributes : Attributes) : List (String × Json) :=
  attributes.entries.filter fun entry =>
    entry.1 != layer.objectIdField && entry.1 != layer.geometryField

/-- The assignment of an attribute to its column. -/
def assignment (catalog : Catalog) (entry : String × Json) : Except Error (List Piece) :=
  match catalog.field? entry.1 with
  | none => .error (.unknownAttributes [entry.1])
  | some field =>
    (bindValue field entry.2).map fun bind => [.text (quoteName field.name ++ " = "), .bind bind]

/-- The object id of the feature to change, and the statement that changes its attributes if there
are any to change. -/
def updateStatement (layer : Layer) (catalog : Catalog) (attributes : Attributes) :
    Except Error (Int × Option Statement) := do
  let objectId ← objectIdOf layer attributes
  let entries := changed layer attributes
  let unknown := (entries.map Prod.fst).filter fun name => !catalog.hasField name
  if !unknown.isEmpty then throw (.unknownAttributes unknown)
  if entries.isEmpty then pure (objectId, none)
  else
    let assignments ← entries.mapM (assignment catalog)
    pure (objectId, some (Statement.ofPieces
      (.text ("UPDATE " ++ quoteName layer.table ++ " SET ") ::
        Statement.between ", " assignments ++ wherePieces layer objectId)))

/-- The statement that sets the geometry of a feature. -/
def geometryStatement (layer : Layer) (geometry : Geometry Float) (objectId : Int) :
    Except Error Statement :=
  match geometry.toText .crossings layer.kind with
  | .error fault => .error (.geometry fault)
  | .ok text =>
    .ok (Statement.ofPieces
      ([.text ("UPDATE " ++ quoteName layer.table ++ " SET " ++ quoteName layer.geometryField ++
          " = ST_Transform(ST_GeomFromEWKT("), .bind (.text text), .text "), ",
        .bind (.int layer.srid), .text ")"] ++ wherePieces layer objectId))

/-- The statement that removes a feature. -/
def deleteStatement (layer : Layer) (objectId : Int) : Statement :=
  Statement.ofPieces (.text ("DELETE FROM " ++ quoteName layer.table) :: wherePieces layer objectId)

end GeoLayers.Edit
