import GeoLayers.Database.Session
import GeoLayers.Query.Compile

/-!
The rows that the database answers to a query. One row more than a page holds is asked for; if it
is there, the page is cut and marked.
-/

namespace GeoLayers

open Database

/-- An answered row: an object. Other values are passed over. -/
def Attributes.ofJson? : Json → Option Attributes
  | .object members => some (.ofList members)
  | _ => none

/-- The value in a row of one column. -/
def Json.ofRow? : List Cell → Option Json
  | [.json value] => some value
  | _ => none

/-- The rows of a statement as objects. -/
def loadRows (statement : Statement) : Work (List Attributes) := do
  let answer ← Work.run statement.asJsonRows [.json]
  let values ← Work.readRows Json.ofRow? answer
  pure (values.filterMap Attributes.ofJson?)

/-- The rows of a page. -/
structure Page where
  rows : List Attributes
  /-- Whether there are more rows than the page holds. -/
  exceeded : Bool
  deriving Inhabited

/-- Cuts the rows to the size of a page. -/
def Page.ofRows (limit : Option Int) (rows : List Attributes) : Page :=
  match limit with
  | some limit =>
    if limit < rows.length then ⟨rows.take limit.toNat, true⟩ else ⟨rows, false⟩
  | none => ⟨rows, false⟩

/-- The page that a query asks for. -/
def Page.load (layer : Layer) (catalog : Catalog) (request : QueryRequest) : Work Page := do
  let statement ← compile layer catalog request
  let rows ← loadRows statement
  pure (Page.ofRows request.pageLimit? rows)

end GeoLayers
