import GeoLayers.Proofs.Edit.Failure
import GeoLayers.Proofs.Edit.Target
import GeoLayers.Proofs.Database.Replay
import Mathlib.Data.List.Forall2

/-!
An addition or a change of a feature is done in full or not at all. What can be refused without the
database is refused before anything is sent; all statements that remain are sent in one transaction,
which is committed if every one of them was answered and rolled back otherwise.
-/

namespace GeoLayers.Edit

open Database
open Work (Enclosed)

variable {σ : Type} {layer : Layer} {catalog : Catalog} {feature : Feature} {id : Int}
  {exchanges : List (Command × Reply)}

/-- The edits that send their statements in a transaction. -/
inductive Procedure where
  | add
  | update
  deriving DecidableEq, Repr

/-- The work of an edit. -/
def Procedure.work : Procedure → Layer → Catalog → Feature → Work Int
  | .add => addFeature
  | .update => updateFeature

/-- Exchanges in which a statement is answered. Nothing is read from its rows. -/
def Answered (statement : Statement) (exchange : Command × Reply) : Prop :=
  ∃ answer, exchange = (.run statement [], .ok answer)

/-- What is said in a transaction that ends well, with the object id of the feature. An addition
sends its insertion, whose answer is the object id, and a change the statement for the attributes if
there are any to change. The statement for the geometry follows if the feature has one. -/
def Procedure.Done (layer : Layer) (catalog : Catalog) (feature : Feature) (id : Int)
    (inner : List (Command × Reply)) : Procedure → Prop
  | .add => ∃ insert answer more geometry set,
      insertStatement layer catalog feature.attributes = .ok insert ∧
      answer.rows = [.bigInt id] :: more ∧
      geometryStatements layer feature id = .ok geometry ∧
      (∀ statement ∈ geometry, Picks "UPDATE " layer id statement) ∧
      List.Forall₂ Answered geometry set ∧ inner = (.run insert [.bigInt], .ok answer) :: set
  | .update => ∃ update geometry,
      updateStatement layer catalog feature.attributes = .ok (id, update) ∧
      geometryStatements layer feature id = .ok geometry ∧
      (∀ statement ∈ update.toList ++ geometry, Picks "UPDATE " layer id statement) ∧
      List.Forall₂ Answered (update.toList ++ geometry) inner

/-- What is refused before anything is sent: attributes that do not fit the layer, and for a change
also a geometry that does not. -/
def Procedure.Refused (layer : Layer) (catalog : Catalog) (feature : Feature) (e : Error) :
    Procedure → Prop
  | .add => insertStatement layer catalog feature.attributes = .error e
  | .update => updateStatement layer catalog feature.attributes = .error e ∨
      ∃ id update, updateStatement layer catalog feature.attributes = .ok (id, update) ∧
        geometryStatements layer feature id = .error e

/-- What is said in a transaction that fails. -/
inductive Procedure.Stopped (layer : Layer) (catalog : Catalog) (feature : Feature) :
    Procedure → List (Command × Reply) → Error → Prop
  /-- The insertion is refused. -/
  | insertion {insert : Statement} (report : Report)
      (hinsert : insertStatement layer catalog feature.attributes = .ok insert) :
      Stopped layer catalog feature .add [(.run insert [.bigInt], .error report)]
        (.query (report.fault insert.sql))
  /-- The answer to the insertion is no object id. -/
  | unidentified {insert : Statement} {answer : Answer} {e : Error}
      (hinsert : insertStatement layer catalog feature.attributes = .ok insert)
      (hanswer : insertedId answer = .error e) :
      Stopped layer catalog feature .add [(.run insert [.bigInt], .ok answer)] e
  /-- The geometry of an addition does not fit the layer. -/
  | unfit {insert : Statement} {answer : Answer} {id : Int} {e : Error}
      (hinsert : insertStatement layer catalog feature.attributes = .ok insert)
      (hanswer : insertedId answer = .ok id)
      (hgeometry : geometryStatements layer feature id = .error e) :
      Stopped layer catalog feature .add [(.run insert [.bigInt], .ok answer)] e
  /-- The geometry of an addition is refused. -/
  | geometry {insert statement : Statement} {answer : Answer} {id : Int} (report : Report)
      (hinsert : insertStatement layer catalog feature.attributes = .ok insert)
      (hanswer : insertedId answer = .ok id)
      (hgeometry : geometryStatements layer feature id = .ok [statement]) :
      Stopped layer catalog feature .add
        [(.run insert [.bigInt], .ok answer), (.run statement [], .error report)]
        (.query (report.fault statement.sql))
  /-- A statement of a change is refused, after those before it were answered. -/
  | statement {id : Int} {before after : List Statement} {statement : Statement}
      {answered : List (Command × Reply)} (report : Report)
      (hstatements : updateStatements layer catalog feature =
        .ok (id, before ++ statement :: after))
      (hanswered : List.Forall₂ Answered before answered) :
      Stopped layer catalog feature .update (answered ++ [(.run statement [], .error report)])
        (.query (report.fault statement.sql))

/-- An edit that failed has left nothing behind: it was refused and nothing was sent, or its
transaction was rolled back, and in any case nothing was committed. -/
structure Procedure.Undone (layer : Layer) (catalog : Catalog) (feature : Feature) (e : Error)
    (procedure : Procedure) (exchanges : List (Command × Reply)) : Prop where
  uncommitted : ∀ reply, (.commit, reply) ∉ exchanges
  ended : (procedure.Refused layer catalog feature e ∧ exchanges = []) ∨
    ∃ inner, procedure.Stopped layer catalog feature inner e ∧ Enclosed .rollback inner exchanges

/-- Statements that are sent one after the other are all answered, or one is refused and those after
it are not sent. -/
theorem trace_runAll {statements : List Statement} {result : Except Error Unit}
    (h : (runAll statements).Trace exchanges result) :
    (result = .ok () ∧ List.Forall₂ Answered statements exchanges) ∨
      ∃ before statement after answered report, statements = before ++ statement :: after ∧
        List.Forall₂ Answered before answered ∧
        exchanges = answered ++ [(.run statement [], .error report)] ∧
        result = .error (.query (report.fault statement.sql)) := by
  induction statements generalizing exchanges with
  | nil =>
      obtain ⟨rfl, rfl⟩ := Work.trace_pure h
      exact .inl ⟨rfl, .nil⟩
  | cons statement statements ih =>
      rcases Work.trace_bind h with ⟨e, hrun, rfl⟩ | ⟨answer, said, later, hrun, hrest, rfl⟩
      · rcases Work.trace_runStatement hrun with ⟨answer, -, hnone⟩ | ⟨report, rfl, he⟩
        · cases hnone
        · obtain rfl := Except.error.inj he
          exact .inr ⟨[], statement, statements, [], report, rfl, .nil, rfl, rfl⟩
      · rcases Work.trace_runStatement hrun with ⟨answer, rfl, -⟩ | ⟨report, -, hnone⟩
        case inr => cases hnone
        rcases ih hrest with ⟨rfl, hall⟩ |
          ⟨before, refused, after, answered, report, rfl, hbefore, rfl, rfl⟩
        · exact .inl ⟨rfl, .cons ⟨answer, rfl⟩ hall⟩
        · exact .inr ⟨statement :: before, refused, after, _ :: answered, report, rfl,
            .cons ⟨answer, rfl⟩ hbefore, rfl, rfl⟩

theorem exists_of_mem_answered {statements : List Statement} {exchange : Command × Reply}
    (h : List.Forall₂ Answered statements exchanges) (hmem : exchange ∈ exchanges) :
    ∃ statement ∈ statements, Answered statement exchange := by
  induction h with
  | nil => cases hmem
  | cons hfirst _ ih =>
      rcases List.mem_cons.1 hmem with rfl | hmem
      · exact ⟨_, List.mem_cons_self, hfirst⟩
      · obtain ⟨statement, hstatement, hanswered⟩ := ih hmem
        exact ⟨statement, List.mem_cons_of_mem _ hstatement, hanswered⟩

/-- A change that succeeds was committed with all its statements answered. -/
theorem done_of_updateFeature (h : (updateFeature layer catalog feature).Trace exchanges (.ok id)) :
    ∃ inner, Procedure.update.Done layer catalog feature id inner ∧
      Enclosed .commit inner exchanges := by
  rcases Work.trace_check h with ⟨e, -, -, hnone⟩ | ⟨⟨objectId, statements⟩, hprepared, hnext⟩
  · cases hnone
  rcases Work.trace_bind hnext with ⟨e, -, hnone⟩ | ⟨_, said, last, htransaction, hlast, rfl⟩
  · cases hnone
  obtain ⟨rfl, hid⟩ := Work.trace_pure hlast
  obtain rfl := Except.ok.inj hid
  obtain ⟨update, geometry, hupdate, hgeometry, rfl⟩ := updateStatements_eq_ok hprepared
  obtain ⟨inner, hbody, henclosed⟩ := Work.enclosed_of_ok htransaction
  rcases trace_runAll hbody with ⟨-, hall⟩ | ⟨_, _, _, _, _, -, -, -, hnone⟩
  · rw [List.append_nil]
    exact ⟨inner, ⟨update, geometry, hupdate, hgeometry, picks_updateStatements hprepared, hall⟩,
      henclosed⟩
  · cases hnone

end GeoLayers.Edit
