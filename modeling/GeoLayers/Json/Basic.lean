import GeoLayers.Dictionary
import GeoLayers.Number.Layout

/-!
JSON values and their text. Numbers without a fraction or an exponent that fit a word of 64 bits
are whole numbers, all others are binary floating-point numbers. The members of an object that was
read stand in the order of the text; `canonical` sorts them, and of several with one name keeps the
last.
-/

namespace GeoLayers

/-- A JSON value. -/
inductive Json where
  | null
  | bool (value : Bool)
  | integer (value : Int)
  | float (value : Float)
  | text (value : String)
  | array (items : List Json)
  | object (members : List (String × Json))
  deriving Inhabited, Repr

/-- The members of an object, sorted by name. -/
abbrev Attributes := Dictionary Json

namespace Json

def isNull : Json → Bool
  | .null => true
  | _ => false

/-- The text of a string value. -/
def text? : Json → Option String
  | .text s => some s
  | _ => none

mutual

/-- The value with the members of all its objects sorted and without repeated names. -/
def canonical : Json → Json
  | .array items => .array (canonicalItems items)
  | .object members => .object (Dictionary.ofList (canonicalMembers members)).entries
  | v => v

def canonicalItems : List Json → List Json
  | [] => []
  | v :: vs => canonical v :: canonicalItems vs

def canonicalMembers : List (String × Json) → List (String × Json)
  | [] => []
  | (name, v) :: rest => (name, canonical v) :: canonicalMembers rest

end

mutual

/-- Whether all numbers in a value are finite. The reader gives an infinite number for a numeral
outside the range of floating-point numbers. -/
def isExpressible : Json → Bool
  | .float x => Number.isFinite x
  | .array items => areExpressible items
  | .object members => membersExpressible members
  | _ => true

def areExpressible : List Json → Bool
  | [] => true
  | v :: vs => isExpressible v && areExpressible vs

def membersExpressible : List (String × Json) → Bool
  | [] => true
  | (_, v) :: rest => isExpressible v && membersExpressible rest

end

/-- How a character stands in a quoted text. Control characters and the two that would end the
text or start an escape are escaped. -/
def escaped (c : Char) : List Char :=
  if c == '"' then ['\\', '"']
  else if c == '\\' then ['\\', '\\']
  else if c.toNat ≥ 0x20 then [c]
  else if c == '\n' then ['\\', 'n']
  else if c == '\r' then ['\\', 'r']
  else if c == '\t' then ['\\', 't']
  else if c.toNat == 8 then ['\\', 'b']
  else if c.toNat == 12 then ['\\', 'f']
  else ['\\', 'u', '0', '0', Nat.digitChar (c.toNat / 16), Nat.digitChar (c.toNat % 16)]

/-- A text between quotes. -/
def quoted (s : String) : String := "\"" ++ String.ofList (s.toList.flatMap escaped) ++ "\""

mutual

/-- The text of a value, without blanks. -/
def compress : Json → String
  | .null => "null"
  | .bool b => if b then "true" else "false"
  | .integer n => toString n
  | .float x => Number.Layout.json.text x
  | .text s => quoted s
  | .array items => "[" ++ ",".intercalate (compressItems items) ++ "]"
  | .object members => "\x7b" ++ ",".intercalate (compressMembers members) ++ "\x7d"

def compressItems : List Json → List String
  | [] => []
  | v :: vs => compress v :: compressItems vs

def compressMembers : List (String × Json) → List String
  | [] => []
  | (name, v) :: rest => (quoted name ++ ":" ++ compress v) :: compressMembers rest

end

/-- The number that a value is, as a floating-point number. -/
def float? : Json → Option Float
  | .integer n => some (Float.ofInt n)
  | .float x => some x
  | _ => none

/-- The whole number that a value is, if it is a signed word of 64 bits. -/
def int64? : Json → Option Int
  | .integer n => if Number.minInt64 ≤ n ∧ n ≤ Number.maxInt64 then some n else none
  | _ => none

/-- An object with the members that are there. -/
def ofMembers (members : List (String × Option Json)) : Json :=
  .object (members.filterMap fun (name, value) => value.map (name, ·))

end Json

/-- The object whose members are given attributes. -/
def Dictionary.toJson (attributes : Attributes) : Json := .object attributes.entries

end GeoLayers
