import GeoLayers.Catalog.Basic
import GeoLayers.Database.Session

/-!
How the columns of a layer are found out. Every table is asked for once, in the order in which the
layer needs them.
-/

namespace GeoLayers

open Database

namespace Catalog

/-- The question for the columns of a table. -/
def columnsStatement (table : String) : Statement :=
  ⟨"SELECT column_name::text AS column_name, is_nullable::text AS is_nullable, " ++
    "data_type::text AS data_type FROM information_schema.columns WHERE table_name = $1 " ++
    "ORDER BY ordinal_position", [.text table]⟩

/-- A column out of a row: its name, `YES` if it may be null, and its type. -/
def columnOfRow? : List Cell → Option Field
  | [.text name, .text nullable, .text native] =>
    some (.ofColumn name native (nullable == "YES"))
  | _ => none

/-- The columns of a table as the database tells them. A table that is not there has none. -/
def askColumns (table : String) : Work (List Field) := do
  let answer ← Work.runPlain (columnsStatement table) [.text, .text, .text]
  Work.readRows columnOfRow? answer

/-- Tables whose columns are known already. -/
abbrev Known := Dictionary (List Field)

/-- The columns of a table, asked for only if they are not known. -/
def columnsOf (known : Known) (table : String) : Work (List Field × Known) :=
  match known.find? table with
  | some columns => pure (columns, known)
  | none => do
    let columns ← askColumns table
    pure (columns, known.insert table columns)

/-- The columns of related tables. -/
def relatedOf (known : Known) : List Relation → Work (List RelatedCatalog)
  | [] => pure []
  | relation :: relations => do
    let (columns, known) ← columnsOf known relation.table
    let related ← relatedOf known relations
    pure (.ofColumns relation columns :: related)

/-- The catalog of a layer. The layer's own table has to be there. -/
def lookup (layer : Layer) : Work Catalog := do
  let (columns, known) ← columnsOf .empty layer.table
  if columns.isEmpty then throw (.missing (.table layer.table layer.name))
  let related ← relatedOf known layer.relations
  pure (.ofColumns layer columns related)

end Catalog

end GeoLayers
