import GeoLayers.Error
import GeoLayers.Statement.Basic

/-!
Work with a database, as a value. A session asks for a connection, sends commands one after the
other and goes on with the replies; what it sends can depend on nothing else. Nothing here talks to
a database: `Session.run` plays a session against any rule that gives replies, and keeps what was
said.
-/

namespace GeoLayers.Database

/-- The types of columns in an answer. -/
inductive ColumnType where
  | text | bigInt | double | json
  deriving DecidableEq, Repr, Inhabited

/-- A value in an answer. -/
inductive Cell where
  | null
  | text (value : String)
  | bigInt (value : Int)
  | double (value : Float)
  | json (value : Json)
  deriving Repr, Inhabited

/-- What can be sent. -/
inductive Command where
  | start
  | commit
  | rollback
  /-- A statement, with the types of the columns that are read from its rows. -/
  | run (statement : Statement) (columns : List ColumnType)
  deriving Repr, Inhabited

/-- What comes back: rows, and the number of rows that were changed. -/
structure Answer where
  rows : List (List Cell) := []
  affected : Nat := 0
  deriving Repr, Inhabited

/-- An answer, or what the database reports instead. -/
abbrev Reply := Except Report Answer

/-- Work with a database that ends with a value. -/
inductive Session (α : Type) where
  | done (value : α)
  /-- Asks for a connection and hears whether there is one. -/
  | connect (next : Bool → Session α)
  | send (command : Command) (next : Reply → Session α)

/-- A rule that gives replies. What it says may depend on a state of its own. -/
structure Responder (σ : Type) where
  connect : σ → Bool × σ
  reply : Command → σ → Reply × σ

/-- How a session went. -/
structure Record (α σ : Type) where
  value : α
  state : σ
  /-- The commands with their replies, in order. -/
  exchanges : List (Command × Reply) := []

namespace Session

variable {α β σ : Type}

def bind : Session α → (α → Session β) → Session β
  | .done value, f => f value
  | .connect next, f => .connect fun connected => (next connected).bind f
  | .send command next, f => .send command fun reply => (next reply).bind f

instance : Monad Session where
  pure := .done
  bind := bind

/-- Plays a session. -/
def run (responder : Responder σ) : Session α → σ → Record α σ
  | .done value, state => { value, state }
  | .connect next, state =>
    let (connected, state) := responder.connect state
    (next connected).run responder state
  | .send command next, state =>
    let (reply, state) := responder.reply command state
    let rest := (next reply).run responder state
    { rest with exchanges := (command, reply) :: rest.exchanges }

end Session

/-- Work that may fail. -/
abbrev Work := ExceptT Error Session

namespace Work

/-- Sends a command. -/
def ask (command : Command) : Work Reply := ExceptT.mk (.send command fun reply => .done (.ok reply))

/-- Asks for a connection. -/
def checkout : Work Unit :=
  ExceptT.mk (.connect fun connected =>
    .done (if connected then .ok () else .error .internal))

/-- Sends a statement. An error is told by its message and its place in the statement. -/
def run (statement : Statement) (columns : List ColumnType) : Work Answer := do
  match ← ask (.run statement columns) with
  | .ok answer => pure answer
  | .error report => throw (.query (report.fault statement.sql))

/-- Sends a statement. An error is told by its message alone. -/
def runPlain (statement : Statement) (columns : List ColumnType) : Work Answer := do
  match ← ask (.run statement columns) with
  | .ok answer => pure answer
  | .error report => throw (.query (.ofMessage report.message))

/-- Starts or ends a transaction. -/
def control (command : Command) : Work Unit := do
  match ← ask command with
  | .ok _ => pure ()
  | .error report => throw (.query (.ofMessage report.message))

/-- Does some work in a transaction, which is undone if the work fails. -/
def transaction {α : Type} (body : Work α) : Work α := do
  control .start
  match ← ExceptT.lift (ExceptT.run body) with
  | .ok value =>
    control .commit
    pure value
  | .error e =>
    control .rollback
    throw e

/-- Reads every row of an answer. A row that cannot be read is a fault of the service. -/
def readRows {α : Type} (read? : List Cell → Option α) (answer : Answer) : Work (List α) :=
  match answer.rows.mapM read? with
  | some values => pure values
  | none => throw .internal

end Work

end GeoLayers.Database
