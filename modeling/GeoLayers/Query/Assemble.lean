import GeoLayers.Catalog.Basic
import GeoLayers.Feature

/-!
Features out of rows. A query that joins related tables answers one row for each combination; the
rows of one object id form one feature, and the columns of a relation become its related rows.
-/

namespace GeoLayers

/-- The columns of a relation in a row, by their own names. -/
def Relation.columnsIn (relation : Relation) (row : Attributes) : Attributes :=
  .ofList (row.entries.filterMap fun (key, value) =>
    (Text.stripStart (relation.qualify "") key).map (·, value))

/-- A row without the columns of a relation. -/
def Relation.without (relation : Relation) (row : Attributes) : Attributes :=
  row.filterKeys fun key => (Text.stripStart (relation.qualify "") key).isNone

/-- The related row in a row: the relation's columns and the value that it is joined on. None if
all its columns are null. -/
def Relation.rowIn? (relation : Relation) (columns rest : Attributes) : Option Attributes :=
  if columns.entries.all fun entry => entry.2.isNull then none
  else some (columns.insert relation.targetColumn ((rest.find? relation.sourceColumn).getD .null))

/-- A row with its related rows apart: for every relation with columns in the row, its title and
the related row. -/
structure SplitRow where
  attributes : Attributes
  related : List (String × Option Attributes) := []

/-- Takes the columns of a relation out of a row. -/
def SplitRow.takeOut (row : SplitRow) (relation : Relation) : SplitRow :=
  let columns := relation.columnsIn row.attributes
  if columns.isEmpty then row
  else
    let rest := relation.without row.attributes
    ⟨rest, row.related ++ [(relation.title, relation.rowIn? columns rest)]⟩

def SplitRow.ofRow (layer : Layer) (row : Attributes) : SplitRow :=
  layer.relations.foldl SplitRow.takeOut ⟨row, []⟩

/-- The geometry in a row. -/
def geometryIn (row : Attributes) : Except GeometryFault (Option (Geometry Float)) :=
  match row.find? geometryColumn with
  | some (.text text) => (Shape.ofText text).map fun shape => some ⟨shape, none⟩
  | _ => .ok none

/-- The text that tells the features of rows apart: the object id, or the place of the feature
where a row has none. -/
def identity (layer : Layer) (row : Attributes) (place : Nat) : String :=
  match row.find? layer.objectIdField with
  | some (.text s) => s
  | some value => value.compress
  | none => toString place

/-- Adds related rows to a feature. A title is there as soon as one of its columns is. -/
def Feature.addRelated (feature : Feature) (related : List (String × Option Attributes)) :
    Feature :=
  related.foldl (fun f (title, row) =>
    let rows := (f.related.find? title).getD []
    { f with related := f.related.insert title (rows ++ row.toList) }) feature

/-- Features by their identity, in the order of their first rows. -/
abbrev FeatureList := List (String × Feature)

/-- Adds a row to the feature with its identity, or makes a feature of it. -/
def FeatureList.add (features : FeatureList) (key : String) (feature : Feature)
    (related : List (String × Option Attributes)) : FeatureList :=
  match features with
  | [] => [(key, feature.addRelated related)]
  | (k, f) :: rest =>
    if k = key then (k, f.addRelated related) :: rest
    else (k, f) :: FeatureList.add rest key feature related

/-- Takes up a row. -/
def FeatureList.addRow (layer : Layer) (features : FeatureList) (row : Attributes) :
    Except Error FeatureList := do
  let geometry ← (geometryIn row).mapError Error.geometry
  let split := SplitRow.ofRow layer (row.erase geometryColumn)
  let key := identity layer split.attributes features.length
  pure (features.add key { attributes := split.attributes, geometry } split.related)

/-- One feature for each object id, in the order of their first rows. -/
def assemble (layer : Layer) (rows : List Attributes) : Except Error (List Feature) := do
  let features ← rows.foldlM (FeatureList.addRow layer) []
  pure (features.map Prod.snd)

end GeoLayers
