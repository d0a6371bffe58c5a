import GeoLayers.Error

/-!
The columns that a layer really has, as the database describes them, and the check of names that a
client gives against them.
-/

namespace GeoLayers

/-- The public types of fields. -/
inductive FieldType where
  | objectId | integer | smallInteger | double | text | date | geometry
  deriving DecidableEq, Repr, Inhabited

/-- The public name of a type of fields. -/
def FieldType.name : FieldType → String
  | .objectId => "esriFieldTypeOID"
  | .integer => "esriFieldTypeInteger"
  | .smallInteger => "esriFieldTypeSmallInteger"
  | .double => "esriFieldTypeDouble"
  | .text => "esriFieldTypeString"
  | .date => "esriFieldTypeDate"
  | .geometry => "esriFieldTypeGeometry"

/-- The public type of a column by the name of its type in the database. -/
def FieldType.ofNative (native : String) : FieldType :=
  if native ∈ ["integer", "bigint"] then .integer
  else if native ∈ ["boolean", "smallint"] then .smallInteger
  else if native ∈ ["double precision", "real", "numeric"] then .double
  else if native ∈ ["date", "timestamp without time zone", "timestamp with time zone"] then .date
  else if native = "USER-DEFINED" then .geometry
  else .text

/-- A column. -/
structure Field where
  name : String
  /-- The name that clients show. -/
  label : String
  type : FieldType
  nullable : Bool
  editable : Bool := true
  /-- The column on the other side of a relation. -/
  relatesTo : Option String := none
  /-- The name of the type in the database. -/
  native : String
  deriving DecidableEq, Repr, Inhabited

/-- A column as the database describes it. -/
def Field.ofColumn (name native : String) (nullable : Bool) : Field :=
  { name, label := name, type := .ofNative native, nullable, native }

/-- The columns of a related table. Their names are qualified by the title of the relation. -/
structure RelatedCatalog where
  relation : Relation
  fields : List Field
  deriving DecidableEq, Repr, Inhabited

/-- The name of a related column: the title of the relation, a period, the column. -/
def Relation.qualify (relation : Relation) (column : String) : String :=
  relation.title ++ "." ++ column

/-- A column of a related table under its qualified name. -/
def Relation.field (relation : Relation) (column : Field) : Field :=
  { column with
    name := relation.qualify column.name
    label := relation.qualify column.name
    relatesTo :=
      if column.name = relation.sourceColumn then some relation.targetColumn
      else column.relatesTo }

def RelatedCatalog.ofColumns (relation : Relation) (columns : List Field) : RelatedCatalog :=
  ⟨relation, columns.map relation.field⟩

/-- The qualified names of the columns of a related table. -/
def RelatedCatalog.names (related : RelatedCatalog) : List String := related.fields.map (·.name)

/-- The columns of a related table by their own names. -/
def RelatedCatalog.columns (related : RelatedCatalog) : List String :=
  related.fields.map fun field =>
    String.ofList (field.name.toList.drop (related.relation.title.length + 1))

/-- The columns of a layer and of the tables related to it. -/
structure Catalog where
  fields : List Field
  related : List RelatedCatalog := []
  deriving DecidableEq, Repr, Inhabited

namespace Catalog

/-- The columns of a layer. The one with the object id and the one with the geometry have a type of
their own, whatever their type in the database. -/
def ofColumns (layer : Layer) (columns : List Field) (related : List RelatedCatalog) : Catalog where
  fields := columns.map fun field =>
    if field.name = layer.objectIdField then { field with type := .objectId }
    else if field.name = layer.geometryField then { field with type := .geometry }
    else field
  related := related

def field? (catalog : Catalog) (name : String) : Option Field :=
  catalog.fields.find? (·.name == name)

def hasField (catalog : Catalog) (name : String) : Bool := (catalog.field? name).isSome

/-- The related table with a title. -/
def related? (catalog : Catalog) (title : String) : Option RelatedCatalog :=
  catalog.related.find? (·.relation.title == title)

/-- Whether a name is that of a column of a related table, or stands for all of them. -/
def isRelatedName (catalog : Catalog) (name : String) : Bool :=
  match Text.cutAt '.' name with
  | none => false
  | some (title, column) =>
    match catalog.related? title with
    | none => false
    | some related => column == "*" || related.names.contains name

end Catalog

/-- A name as it is looked up: without blanks around it and without any double quotes. -/
def bareName (raw : String) : String :=
  String.ofList ((Text.trimChars raw.toList).filter (· != '"'))

/-- Texts in order, each once. -/
def sortedTexts (texts : List String) : List String :=
  (Dictionary.ofList (texts.map (·, ()))).keys

namespace Catalog

/-- The names that are neither blank nor a star nor a column of the layer, in order. -/
def unknownNames (catalog : Catalog) (names : List String) : List String :=
  sortedTexts ((names.map bareName).filter fun name =>
    name != "" && name != "*" && !catalog.hasField name)

/-- Checks names that a client gives. A star is always a name; names of related columns are refused
unless they are asked for, and so are all other names that no column has. -/
def checkNames (catalog : Catalog) (names : List String) (includeRelated : Bool) :
    Except Error Unit :=
  let unknown := catalog.unknownNames names
  let related := unknown.filter catalog.isRelatedName
  let invalid := unknown.filter fun name => !catalog.isRelatedName name
  if !includeRelated && !related.isEmpty then .error (.relatedFields related)
  else if !invalid.isEmpty then .error (.unknownFields invalid)
  else .ok ()

end Catalog

end GeoLayers
