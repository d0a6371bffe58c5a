import GeoLayers.Proofs.Database.Replay
import GeoLayers.Proofs.Edit.Failure
import Mathlib.Data.List.Forall2

/-!
How the edits of a batch keep out of each other's way. What is said for a batch is what is said for
its items, one after the other, between the two questions for the times of the layer; and what is
said for an item, and how the item ends, can be told from the item and the replies to its own
commands. A transaction that an item starts is ended before the next item comes.
-/

namespace GeoLayers.Edit

open Database

variable {σ : Type} {layer : Layer} {catalog : Catalog} {batch : Batch}
  {exchanges : List (Command × Reply)}

/-- What was said for one item of a batch, and how the item ended. -/
structure ItemRun where
  exchanges : List (Command × Reply)
  result : Result

/-- Exchanges that leave no transaction open: statements alone, the start of a transaction that was
refused, or a transaction that is started, holds statements alone and is ended once. -/
inductive Closed : List (Command × Reply) → Prop where
  | statements {exchanges : List (Command × Reply)}
      (h : ∀ exchange ∈ exchanges, exchange.1.statement?.isSome) : Closed exchanges
  | refused (report : Report) : Closed [(.start, .error report)]
  | transaction (answer : Answer) {inner : List (Command × Reply)} {last : Command} (reply : Reply)
      (h : ∀ exchange ∈ inner, exchange.1.statement?.isSome)
      (hlast : last = .commit ∨ last = .rollback) :
      Closed ((.start, .ok answer) :: (inner ++ [(last, reply)]))

/-- What was said for a batch: the two questions for the times, and the items between them. -/
structure BatchRun where
  first : List (Command × Reply)
  adds : List ItemRun
  updates : List ItemRun
  deletes : List ItemRun
  last : List (Command × Reply)

/-- All that was said, in its order. -/
def BatchRun.said (run : BatchRun) : List (Command × Reply) :=
  run.first ++ (run.adds ++ run.updates ++ run.deletes).flatMap ItemRun.exchanges ++ run.last

/-- Whether a command sends a statement. -/
abbrev isStatement (command : Command) : Prop := command.statement?.isSome

/-- Work that asks for no connection and leaves no transaction open. -/
structure LeavesClosed {α : Type} (work : Work α) : Prop where
  sends : work.Sends fun _ => True
  closed : ∀ {exchanges result}, work.Trace exchanges result → Closed exchanges

namespace LeavesClosed

variable {α β : Type}

theorem transaction {body : Work α} (h : body.Sends isStatement) :
    LeavesClosed (Work.transaction body) where
  sends := Work.sends_transaction (Session.Sends.mono h fun _ _ => trivial) trivial trivial trivial
  closed htrace := by
    rcases Work.trace_transaction htrace with
      ⟨report, rfl, -⟩ | ⟨answer, inner, outcome, reply, hinner, rfl, -⟩
    · exact .refused report
    · refine .transaction answer reply (Session.Sends.of_trace h hinner) ?_
      cases outcome with
      | ok value => exact .inl rfl
      | error e => exact .inr rfl

end LeavesClosed

end GeoLayers.Edit
