import GeoLayers.Sql.Token

/-!
The syntax of expressions. An expression is a column, a dotted path, or a `Form` applied to
operands, as a term over a signature: a form holds everything of a construct but its operands
(operator, keywords, type names), so that whatever has to reach every subexpression is defined
once, on the list of operands. A nested query is the form `query`: its fixed text with a gap for
each of the expressions in it.
-/

namespace GeoLayers.Sql

/-- How a name is quoted. -/
inductive QuoteStyle where
  | bare
  | double
  | single
  deriving DecidableEq, Repr, Inhabited

/-- A name, with the quotes that it is written in. -/
structure Ident where
  value : String
  quote : QuoteStyle := .bare
  deriving DecidableEq, Repr, Inhabited

/-- A constant. -/
inductive Literal where
  | number (digits : String) (long : Bool)
  | text (kind : Quoted) (body : String)
  | dollarText (tag : Option String) (body : String)
  /-- A name between double quotes where a constant is expected. -/
  | doubleQuoted (body : String)
  | boolean (value : Bool)
  | null
  | placeholder (name : String)
  deriving DecidableEq, Repr, Inhabited

/-- The name of a type. -/
inductive DataType where
  /-- A known type: its name, the arguments in brackets, and what follows them. -/
  | known (name : String) (args : List String) (tail : String)
  | custom (name : List Ident) (modifiers : List String)
  | array (element : DataType) (size : Option Nat)
  | angleArray (element : DataType)
  deriving DecidableEq, Repr, Inhabited

/-- The operators that stand between two operands. -/
inductive BinaryOp where
  | symbol (s : Symbol)
  | custom (run : String)
  | and
  | or
  | xor
  | overlaps
  /-- An operator given by its path, `OPERATOR(schema.+)`. -/
  | path (parts : List String)
  deriving DecidableEq, Repr, Inhabited

/-- The operators with one operand. All but the factorial stand before it. -/
inductive UnaryOp where
  | plus | minus | not | bitNot | squareRoot | cubeRoot | factorial | doubleBang | abs
  | hash | atDashAt | atAt | questionDash | questionPipe
  deriving DecidableEq, Repr, Inhabited

/-- The comparisons with all or with some element of an array. -/
inductive Quantifier where
  | all | any | some
  deriving DecidableEq, Repr, Inhabited

/-- The normal forms of Unicode text. -/
inductive Normalization where
  | nfc | nfd | nfkc | nfkd
  deriving DecidableEq, Repr, Inhabited

/-- What `IS` tests. -/
inductive Test where
  | null | true | false | unknown
  | normalized (form : Option Normalization)
  deriving DecidableEq, Repr, Inhabited

inductive LikeKind where
  | like | ilike | similar
  deriving DecidableEq, Repr, Inhabited

inductive CastKind where
  | cast | tryCast | safeCast | doubleColon
  deriving DecidableEq, Repr, Inhabited

/-- The format of a cast, with the time zone it is read in. -/
structure CastFormat where
  format : Literal
  zone : Option Literal
  deriving DecidableEq, Repr, Inhabited

/-- What `CONVERT` converts to. -/
inductive ConvertTarget where
  | charset (name : List Ident)
  | type (type : DataType) (charset : Option (List Ident))
  deriving DecidableEq, Repr, Inhabited

/-- A part of a date: one of the known names, in capitals, or another name as it is. -/
inductive DateField where
  | known (name : String)
  | custom (name : Ident)
  deriving DecidableEq, Repr, Inhabited

/-- What `CEIL` and `FLOOR` round to. -/
inductive RoundTarget where
  | whole
  | field (field : DateField)
  | scale (digits : Literal)
  deriving DecidableEq, Repr, Inhabited

inductive TrimSide where
  | both | leading | trailing
  deriving DecidableEq, Repr, Inhabited

/-- The fields of an interval after its value. -/
structure IntervalFields where
  leading : Option DateField := none
  leadingPrecision : Option Nat := none
  last : Option DateField := none
  fraction : Option Nat := none
  deriving DecidableEq, Repr, Inhabited

/-- One step of an access chain. Each bound that is there is an operand. -/
inductive AccessStep where
  | dot
  | index
  | slice (lower upper stride : Bool)
  deriving DecidableEq, Repr, Inhabited

/-- What stands in the place of an argument's value. Only `operand` is an operand. -/
inductive ArgValue where
  | operand
  | star
  | wildcard (qualifier : List Ident)
  deriving DecidableEq, Repr, Inhabited

/-- What joins an argument's name to its value. -/
inductive ArgOperator where
  | rArrow | assignment | colon | value
  deriving DecidableEq, Repr, Inhabited

/-- An argument; the name of a named one is an operand before the value. -/
inductive ArgForm where
  | unnamed (value : ArgValue)
  | named (operator : ArgOperator) (value : ArgValue)
  deriving DecidableEq, Repr, Inhabited

inductive Treatment where
  | all | distinct
  deriving DecidableEq, Repr, Inhabited

/-- A clause at the end of an argument list; the filler of an overflow is an operand. -/
inductive ArgClause where
  | absentOnNull
  | nullOnNull
  | overflowError
  | overflowTruncate (filler withCount : Bool)
  deriving DecidableEq, Repr, Inhabited

structure ArgList where
  treatment : Option Treatment := none
  args : List ArgForm := []
  clauses : List ArgClause := []
  deriving DecidableEq, Repr, Inhabited

inductive NullTreatment where
  | ignore | respect
  deriving DecidableEq, Repr, Inhabited

inductive FrameUnits where
  | rows | range | groups
  deriving DecidableEq, Repr, Inhabited

inductive FrameDirection where
  | preceding | following
  deriving DecidableEq, Repr, Inhabited

/-- A bound of a window frame; the distance of `offset` is an operand. -/
inductive FrameBound where
  | currentRow
  | unbounded (direction : FrameDirection)
  | offset (direction : FrameDirection)
  deriving DecidableEq, Repr, Inhabited

structure Frame where
  units : FrameUnits
  first : FrameBound
  last : Option FrameBound
  deriving DecidableEq, Repr, Inhabited

/-- The window of a call; the expressions it partitions by are operands. -/
inductive Window where
  | named (name : Ident)
  | spec (name : Option Ident) (partitions : Nat) (frame : Option Frame)
  deriving DecidableEq, Repr, Inhabited

/-- A call. Its operands are those of the arguments, then the filter, then the window's. -/
structure Call where
  name : List Ident
  /-- Written between braces, as a call of the host's library. -/
  braced : Bool := false
  /-- A few functions are called without brackets. -/
  arguments : Option ArgList := some {}
  filtered : Bool := false
  nulls : Option NullTreatment := none
  window : Option Window := none
  deriving DecidableEq, Repr, Inhabited

/-- Everything of a construct but its operands. -/
inductive Form where
  | literal (value : Literal)
  | wildcard (qualifier : List Ident)
  | unary (op : UnaryOp)
  | binary (op : BinaryOp)
  | quantified (op : BinaryOp) (quantifier : Quantifier)
  | test (negated : Bool) (test : Test)
  | distinctFrom (negated : Bool)
  | inList (negated : Bool)
  | inUnnest (negated : Bool)
  | inQuery (negated : Bool)
  | between (negated : Bool)
  | like (kind : LikeKind) (negated any : Bool) (escape : Option String)
  | regexp (negated : Bool) (rlike : Bool)
  | cast (kind : CastKind) (type : DataType) (format : Option CastFormat)
  | convert (target : ConvertTarget)
  | atTimeZone
  | extract (field : DateField)
  | round (up : Bool) (target : RoundTarget)
  | position
  | substring (commas hasStart hasLength : Bool)
  | overlay (hasLength : Bool)
  | trim (side : Option TrimSide) (hasWhat : Bool)
  | collate (collation : List Ident)
  | nested
  | tuple
  | array (named : Bool)
  | typedText (type : DataType) (value : Literal)
  | introduced (introducer : Ident) (value : Literal)
  | interval (fields : IntervalFields)
  | case (hasOperand : Bool) (branches : Nat) (hasElse : Bool)
  | access (steps : List AccessStep)
  | call (call : Call)
  /-- An array made of a query's rows. -/
  | arrayQuery (name : List Ident)
  | subquery
  | exists (negated : Bool)
  /-- A query: the texts before, between and after its operands. -/
  | query (texts : List String)
  deriving DecidableEq, Repr, Inhabited

/-- An expression. -/
inductive Expr where
  | column (name : Ident)
  | path (parts : List Ident)
  | form (head : Form) (operands : List Expr)
  deriving Repr, Inhabited

/-- Whether a form is a query used as a value, a set or a test. -/
def Form.isNestedQuery : Form → Bool
  | .subquery | .exists _ | .inQuery _ => true
  | _ => false

namespace Expr

mutual

/-- Replaces every column and every path by what `onColumn` and `onPath` make of it. -/
def mapNames (onColumn : Ident → Expr) (onPath : List Ident → Expr) : Expr → Expr
  | .column name => onColumn name
  | .path parts => onPath parts
  | .form head operands => .form head (mapNamesAll onColumn onPath operands)

def mapNamesAll (onColumn : Ident → Expr) (onPath : List Ident → Expr) : List Expr → List Expr
  | [] => []
  | e :: es => mapNames onColumn onPath e :: mapNamesAll onColumn onPath es

end

mutual

/-- The names that an expression refers to, from left to right: the value of each column, the
values of each path's parts. -/
def references : Expr → List (List String)
  | .column name => [[name.value]]
  | .path parts => [parts.map Ident.value]
  | .form _ operands => referencesAll operands

def referencesAll : List Expr → List (List String)
  | [] => []
  | e :: es => references e ++ referencesAll es

end

mutual

/-- Whether some form in an expression satisfies a test. -/
def anyForm (test : Form → Bool) : Expr → Bool
  | .column _ | .path _ => false
  | .form head operands => test head || anyFormIn test operands

def anyFormIn (test : Form → Bool) : List Expr → Bool
  | [] => false
  | e :: es => anyForm test e || anyFormIn test es

end

end Expr

end GeoLayers.Sql
