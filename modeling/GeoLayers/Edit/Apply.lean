import GeoLayers.Database.Session
import GeoLayers.Edit.Batch
import GeoLayers.Edit.Statement
import GeoLayers.Layer.Bounds

/-!
How edits are carried out. Each item of a batch is on its own: it succeeds or fails, and the next
one follows in either case. A feature is added or changed in one transaction.
-/

namespace GeoLayers.Edit

open Database

/-- The object id in the first row of the answer to an insertion. -/
def insertedId (answer : Answer) : Except Error Int :=
  match answer.rows with
  | [] => .error (.missing .row)
  | [.bigInt id] :: _ => .ok id
  | _ => .error .internal

/-- Adds a feature. Its geometry is set by a second statement. -/
def addFeature (layer : Layer) (catalog : Catalog) (feature : Feature) : Work Int := do
  let insert ← insertStatement layer catalog feature.attributes
  Work.transaction do
    let answer ← Work.run insert [.bigInt]
    let id ← insertedId answer
    match feature.geometry with
    | none => pure id
    | some geometry =>
      let statement ← geometryStatement layer geometry id
      let _ ← Work.run statement []
      pure id

/-- The statements that change a feature, with its object id. -/
def updateStatements (layer : Layer) (catalog : Catalog) (feature : Feature) :
    Except Error (Int × List Statement) := do
  let (id, update) ← updateStatement layer catalog feature.attributes
  match feature.geometry with
  | none => pure (id, update.toList)
  | some geometry =>
    let statement ← geometryStatement layer geometry id
    pure (id, update.toList ++ [statement])

/-- Sends statements one after the other. -/
def runAll : List Statement → Work Unit
  | [] => pure ()
  | statement :: statements => do
    let _ ← Work.run statement []
    runAll statements

/-- Changes a feature. -/
def updateFeature (layer : Layer) (catalog : Catalog) (feature : Feature) : Work Int := do
  let (id, statements) ← updateStatements layer catalog feature
  Work.transaction (runAll statements)
  pure id

/-- Removes a feature, which has to be there. -/
def deleteFeature (layer : Layer) (id : Int) : Work Int := do
  let answer ← Work.runPlain (deleteStatement layer id) []
  if answer.affected = 0 then throw (.missing (.feature id layer.name))
  pure id

/-- How an edit ended: with the object id of the feature, or not. -/
abbrev Result := Except Error Int

/-- Carries out an edit and keeps how it ended. -/
def outcome (edit : Work Int) : Work Result := ExceptT.lift (ExceptT.run edit)

/-- Carries out edits one after the other. -/
def outcomes {α : Type} (edit : α → Work Int) : List α → Work (List Result)
  | [] => pure []
  | item :: items => do
    let result ← outcome (edit item)
    let results ← outcomes edit items
    pure (result :: results)

/-- How the edits of a batch ended. -/
structure Results where
  adds : List Result
  updates : List Result
  deletes : List Result
  /-- The times of the layer, if the edits changed them. -/
  times : Option Layer.TimeExtent := none

/-- The later times if they are not the earlier ones. -/
def changedTimes (before after : Option Layer.TimeExtent) : Option Layer.TimeExtent :=
  if before = after then none else after

/-- Carries out the edits of a batch: first all additions, then all changes, then all removals. -/
def apply (layer : Layer) (catalog : Catalog) (batch : Batch) : Work Results := do
  let before ← layer.askTimeExtent
  let adds ← outcomes (addFeature layer catalog) batch.adds
  let updates ← outcomes (updateFeature layer catalog) batch.updates
  let deletes ← outcomes (deleteFeature layer) batch.deletes
  let after ← layer.askTimeExtent
  pure { adds, updates, deletes, times := changedTimes before after }

/-- The number that clients expect with an edit that failed. -/
def failureCode : Int := -999999

def resultJson : Result → Json
  | .ok id => .object [("objectId", .integer id), ("success", .bool true)]
  | .error e =>
    .object [("success", .bool false),
      ("error", .object [("code", .integer failureCode), ("description", .text e.message)])]

def Results.toJson (results : Results) : Json :=
  Json.ofMembers
    [("addResults", some (.array (results.adds.map resultJson))),
      ("updateResults", some (.array (results.updates.map resultJson))),
      ("deleteResults", some (.array (results.deletes.map resultJson))),
      ("newTimeExtent", results.times.map Layer.TimeExtent.toJson)]

end GeoLayers.Edit
