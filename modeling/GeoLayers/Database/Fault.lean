import GeoLayers.Json.Basic
import GeoLayers.Number.Numeral

/-!
What is told of an error that the database reports. The cause is read off the message: its
wording gives the kind, a line `LINE n:` the place.
-/

namespace GeoLayers.Database

/-- The kinds of database errors that are told apart. -/
inductive FaultKind where
  | transform
  | duplicateColumn
  | badData
  | unknown
  deriving DecidableEq, Repr, Inhabited

/-- The public name of a kind of error. -/
def FaultKind.name : FaultKind → String
  | .transform => "TRANSFORM"
  | .duplicateColumn => "DUPLICATE_COLUMN"
  | .badData => "BAD_DATA"
  | .unknown => "UNKNOWN_ERROR"

/-- A database error as it is told to the client. -/
structure Fault where
  kind : FaultKind
  /-- The first line of the message. -/
  summary : String
  /-- The name between quotes, for a column that is there twice. -/
  column : Option String := none
  /-- The line of the statement. -/
  line : Option Nat := none
  deriving DecidableEq, Repr, Inhabited

def Fault.toJson (fault : Fault) : Json :=
  Json.ofMembers [("error_code", some (.text fault.kind.name)),
    ("underlying", some (.text fault.summary)), ("field_info", fault.column.map .text),
    ("error_line", fault.line.map fun n : Nat => .integer n)]

/-- An error as the database reports it: its message, and the place in the statement, counted in
characters from one. -/
structure Report where
  message : String
  position : Option Int := none
  deriving DecidableEq, Repr, Inhabited

/-- The kind of an error by the wording of its message, letters large or small. -/
def FaultKind.ofMessage (message : String) : FaultKind :=
  let text := (Text.asciiLower message).toList
  let mentions (part : String) := Text.occursIn part.toList text
  if mentions "transform" then .transform
  else if mentions "specified more than once" then .duplicateColumn
  else if mentions "invalid input syntax" then .badData
  else .unknown

/-- The number of a line that starts with `LINE` and has a colon after the number. -/
def lineNumber? (line : List Char) : Option Nat := do
  let rest ← Text.afterStart "LINE ".toList (Text.trimStart line)
  let (number, _) ← Text.cutFirst ':' rest
  let n ← Number.word? 32 (String.ofList (Text.trimChars number))
  some n.toNat

/-- The text between the first two quotes. -/
def quotedName? (message : String) : Option String := do
  let (_, rest) ← Text.cutAt '"' message
  let (name, _) ← Text.cutAt '"' rest
  some name

/-- What a message tells. -/
def Fault.ofMessage (message : String) : Fault :=
  let lines := Text.splitWhen (· == '\n') message.toList
  let kind := FaultKind.ofMessage message
  { kind := kind
    summary := String.ofList (Text.trimChars (lines.headD []))
    column := if kind = .duplicateColumn then quotedName? message else none
    line := lines.findSome? lineNumber? }

/-- The line of a place in a statement. -/
def statementLine? (sql : String) (position : Int) : Option Nat :=
  if position < 1 then none
  else
    let before := (position - 1).toNat
    if sql.toList.length < before then none
    else some ((sql.toList.take before).count '\n' + 1)

/-- What a report on a statement tells. The line in the message comes before the reported place. -/
def Report.fault (report : Report) (sql : String) : Fault :=
  let fault := Fault.ofMessage report.message
  match fault.line with
  | some _ => fault
  | none => { fault with line := report.position.bind (statementLine? sql) }

end GeoLayers.Database
