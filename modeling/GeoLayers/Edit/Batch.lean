import GeoLayers.Feature
import GeoLayers.Query.Parameters

/-!
The edits of one request: features to add, features to change, and object ids to remove.
-/

namespace GeoLayers.Edit

/-- The parameters of an edit request, all text. -/
structure Parameters where
  adds : Option String := none
  updates : Option String := none
  deletes : Option String := none
  deriving DecidableEq, Repr, Inhabited

structure Batch where
  adds : List Feature := []
  updates : List Feature := []
  deletes : List Int := []
  deriving Inhabited

/-- A list of features; a blank text is an empty one. -/
def features (parameter : String) (raw : Option String) : Except Error (List Feature) :=
  match Parameter.nonBlank raw with
  | none => .ok []
  | some text =>
    match (Json.read? text).bind (Json.Decoder.list Feature.decode) with
    | some features => .ok features
    | none => .error (.request (.features parameter))

/-- The edits that the parameters give. -/
def Parameters.toBatch (p : Parameters) : Except Error Batch := do
  let adds ← features "adds" p.adds
  let updates ← features "updates" p.updates
  let deletes ← Parameter.objectIds p.deletes
  pure { adds, updates, deletes }

end GeoLayers.Edit
