import GeoLayers.Calendar.Moment

/-!
Statements with parameters. Values never stand in a statement's text: each is a parameter, and the
text holds its number, counted from one in the order of the parameters.
-/

namespace GeoLayers

/-- The types of parameters. -/
inductive BindKind where
  | text | bigInt | int | float | bool | timestamp
  deriving DecidableEq, Repr, Inhabited

/-- A parameter. -/
inductive Bind where
  | text (value : String)
  | bigInt (value : Int)
  | int (value : Int)
  | float (value : Float)
  | bool (value : Bool)
  | timestamp (value : Calendar.Moment)
  | null (kind : BindKind)
  deriving Repr, Inhabited

/-- The type of a parameter. -/
def Bind.kind : Bind → BindKind
  | .text _ => .text
  | .bigInt _ => .bigInt
  | .int _ => .int
  | .float _ => .float
  | .bool _ => .bool
  | .timestamp _ => .timestamp
  | .null kind => kind

/-- A statement: its text and its parameters. -/
structure Statement where
  sql : String
  binds : List Bind := []
  deriving Repr, Inhabited

namespace Statement

/-- Appends text. -/
def push (s : Statement) (text : String) : Statement := { s with sql := s.sql ++ text }

/-- Adds a parameter, and gives the text that stands for it. -/
def bind (s : Statement) (value : Bind) : Statement × String :=
  ({ s with binds := s.binds ++ [value] }, "$" ++ toString (s.binds.length + 1))

/-- Adds a parameter and appends the text that stands for it. -/
def pushBind (s : Statement) (value : Bind) : Statement :=
  let (s, placeholder) := s.bind value
  s.push placeholder

/-- A piece of a statement. -/
inductive Piece where
  | text (s : String)
  | bind (value : Bind)
  deriving Repr, Inhabited

/-- Appends a piece. -/
def add (s : Statement) : Piece → Statement
  | .text text => s.push text
  | .bind value => s.pushBind value

/-- The statement that some pieces form. -/
def ofPieces (pieces : List Piece) : Statement := pieces.foldl add ⟨"", []⟩

/-- Pieces with a text between neighbours. -/
def between (sep : String) : List (List Piece) → List Piece
  | [] => []
  | [pieces] => pieces
  | pieces :: more => pieces ++ .text sep :: between sep more

/-- The statement whose rows are those of another, each as one JSON object. -/
def asJsonRows (s : Statement) : Statement :=
  { s with sql := "SELECT to_jsonb(q) AS row FROM (" ++ s.sql ++ ") AS q" }

end Statement

end GeoLayers
