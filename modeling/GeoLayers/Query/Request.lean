import GeoLayers.Time
import GeoLayers.Where

/-!
What a query asks for.
-/

namespace GeoLayers

/-- The directions of sorting. -/
inductive Direction where
  | ascending | descending
  deriving DecidableEq, Repr, Inhabited

/-- A field to sort by. -/
structure SortField where
  name : String
  direction : Option Direction := none
  deriving DecidableEq, Repr, Inhabited

/-- Reads a field and perhaps a direction after it. Other words are passed over. -/
def SortField.ofText? (raw : String) : Option SortField :=
  match Text.words raw with
  | [] => none
  | first :: rest =>
    let name := bareName first
    let direction := match rest.head?.map Text.asciiLower with
      | some "asc" => some Direction.ascending
      | some "desc" => some Direction.descending
      | _ => none
    if name.isEmpty then none else some ⟨name, direction⟩

/-- A query of a layer. -/
structure QueryRequest where
  /-- None for all. -/
  fields : List String := []
  clause : Option String := none
  sort : List SortField := []
  objectIds : List Int := []
  /-- The text of the geometry that the features have to touch. -/
  extent : Option String := none
  time : Option TimeRange := none
  outSrid : Int := webMercator
  /-- Zero for no limit. -/
  limit : Int := 0
  offset : Int := 0
  idsOnly : Bool := false
  countOnly : Bool := false
  withGeometry : Bool := true
  deriving Repr, Inhabited

namespace QueryRequest

/-- Whether the answer comes in pages. -/
def isPaged (request : QueryRequest) : Bool := !request.idsOnly && request.objectIds.isEmpty

/-- The size of a page. -/
def pageLimit? (request : QueryRequest) : Option Int :=
  if request.isPaged && 0 < request.limit then some request.limit else none

/-- Whether related rows are answered. -/
def includesRelated (request : QueryRequest) : Bool := !request.objectIds.isEmpty

end QueryRequest

end GeoLayers
