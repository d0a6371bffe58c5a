import GeoLayers.Geometry.Wkt.Basic

/-!
Reading well-known text. A text is a sequence of words, numbers, brackets and commas; a geometry is
its name, perhaps a mark for further dimensions, and its points between brackets. Further
dimensions are read and dropped, and so is whatever follows the geometry.
-/

namespace GeoLayers.Wkt

/-- The tokens of well-known text. `bad` is what starts like a number and is none. -/
inductive Token (α : Type) where
  | comma
  | openBracket
  | closeBracket
  | number (value : α)
  | word (text : String)
  | bad
  deriving Repr

namespace Token

variable {α : Type} [Numeric α]

def isSpace (c : Char) : Bool := c == ' ' || c == '\n' || c == '\r' || c == '\t'

/-- The character that ends a text. -/
def isEnd (c : Char) : Bool := c.toNat == 0

/-- Whether a character goes on with a word or a number. -/
def continues (c : Char) : Bool :=
  !(isSpace c || isEnd c || c == '(' || c == ')' || c == ',')

/-- Whether a character starts a number. -/
def startsNumber (c : Char) : Bool :=
  Number.isDigit c || c == '.' || c == '-' || c == '+'

/-- The token that a run of characters is. Plus signs in front of a number are dropped. -/
def ofRun (first : Char) (run : List Char) : Token α :=
  if startsNumber first then
    let cs := if first == '+' then run.dropWhile (· == '+') else run
    match Numeric.read? (String.ofList cs) with
    | some value => .number value
    | none => .bad
  else .word (String.ofList run)

/-- The tokens of a text, of at most `fuel` characters. -/
def scan : Nat → List Char → List (Token α)
  | 0, _ => []
  | _ + 1, [] => []
  | fuel + 1, c :: cs =>
    if isEnd c then []
    else if isSpace c then scan fuel cs
    else if c == '(' then .openBracket :: scan fuel cs
    else if c == ')' then .closeBracket :: scan fuel cs
    else if c == ',' then .comma :: scan fuel cs
    else ofRun c (c :: cs.takeWhile continues) :: scan fuel (cs.dropWhile continues)

def ofText (s : String) : List (Token α) := scan s.length s.toList

/-- Whether a word is a name, letters large or small. -/
def isNamed (name : String) (word : String) : Bool := Text.asciiUpper word == name

end Token

/-- Readers take tokens from the front of a list. -/
abbrev Reader (α β : Type) := List (Token α) → Option (β × List (Token α))

namespace Reader

variable {α β : Type}

/-- A number. -/
def number : Reader α α
  | .number x :: ts => some (x, ts)
  | _ => none

/-- Some numbers, which are dropped. -/
def dropNumbers : Nat → List (Token α) → Option (List (Token α))
  | 0, ts => some ts
  | n + 1, .number _ :: ts => dropNumbers n ts
  | _, _ => none

/-- A point with `extra` further dimensions. -/
def coord (extra : Nat) : Reader α (Coord α) := fun ts => do
  let (x, ts) ← number ts
  let (y, ts) ← number ts
  let ts ← dropNumbers extra ts
  some (⟨x, y⟩, ts)

/-- Whether the word for no points is in front. -/
def atEmpty : List (Token α) → Bool
  | .word w :: _ => Token.isNamed "EMPTY" w
  | _ => false

/-- What is between round brackets. -/
def inBrackets (read : Reader α β) : Reader α β
  | .openBracket :: ts =>
    match read ts with
    | some (x, .closeBracket :: ts) => some (x, ts)
    | _ => none
  | _ => none

/-- What is between round brackets, or the word for nothing. -/
def bracketedOr (empty : β) (read : Reader α β) : Reader α β := fun ts =>
  if atEmpty ts then some (empty, ts.tail) else inBrackets read ts

/-- One or more items with commas between them, at most `fuel` of them. -/
def itemLoop (item : Reader α β) : Nat → Reader α (List β)
  | 0, _ => none
  | fuel + 1, ts => do
    let (x, ts) ← item ts
    match ts with
    | .comma :: ts => do
      let (xs, ts) ← itemLoop item fuel ts
      some (x :: xs, ts)
    | ts => some ([x], ts)

/-- One or more items with commas between them. -/
def items (item : Reader α β) : Reader α (List β) := fun ts => itemLoop item (ts.length + 1) ts

/-- A point that may stand between brackets of its own. -/
def looseCoord (extra : Nat) : Reader α (Coord α)
  | .openBracket :: ts => inBrackets (coord extra) (.openBracket :: ts)
  | ts => coord extra ts

def path (extra : Nat) : Reader α (Path α) := bracketedOr [] (items (coord extra))

variable [Scalar α]

/-- A polygon of some rings, which are closed. -/
def polygonOf : List (Path α) → Polygon α
  | [] => ⟨[], []⟩
  | shell :: holes => ⟨Ring.close shell, holes.map Ring.close⟩

def polygon (extra : Nat) : Reader α (Polygon α) := fun ts =>
  (bracketedOr [] (items (path extra)) ts).map fun (rings, ts) => (polygonOf rings, ts)

/-- How many further dimensions the word in front marks, and what follows it. -/
def dimensions : Reader α Nat
  | [] => none
  | .word w :: ts =>
    if Token.isNamed "Z" w || Token.isNamed "M" w then some (1, ts)
    else if Token.isNamed "ZM" w then some (2, ts)
    else if Token.isNamed "EMPTY" w then some (0, .word w :: ts)
    else none
  | ts => some (0, ts)

/-- The names of geometries. -/
inductive Name where
  | point | lineString | polygon | multiPoint | multiLineString | multiPolygon | collection

/-- The names in capitals. A ring of its own is read as a line. -/
def names : List (String × Name) :=
  [("POINT", .point), ("LINESTRING", .lineString), ("LINEARRING", .lineString),
    ("POLYGON", .polygon), ("MULTIPOINT", .multiPoint), ("MULTILINESTRING", .multiLineString),
    ("MULTIPOLYGON", .multiPolygon), ("GEOMETRYCOLLECTION", .collection)]

/-- The geometry that a word names, with the further dimensions if the word ends with a mark for
them. -/
def name? (word : String) : Option (Name × Option Nat) :=
  let word := Text.asciiUpper word
  names.findSome? fun (text, name) =>
    if word == text then some (name, none)
    else if word == text ++ "Z" || word == text ++ "M" then some (name, some 1)
    else if word == text ++ "ZM" then some (name, some 2)
    else none

/-- A geometry, with at most `fuel` collections around each of its parts. -/
def geometry : Nat → Reader α (Wkt α)
  | 0, _ => none
  | fuel + 1, ts => do
    match ts with
    | .word w :: ts =>
      let (name, mark) ← name? w
      let (extra, ts) ← match mark with
        | some extra => some (extra, ts)
        | none => dimensions ts
      match name with
      | .point =>
        (bracketedOr none (fun ts => (coord extra ts).map fun (c, ts) => (some c, ts)) ts).map
          fun (c, ts) =>
            match c with
            | some c => (.point c, ts)
            | none => (.multiPoint [], ts)
      | .lineString => (path extra ts).map fun (p, ts) => (.lineString p, ts)
      | .polygon => (polygon extra ts).map fun (p, ts) => (.polygon p, ts)
      | .multiPoint =>
        (bracketedOr [] (items (looseCoord extra)) ts).map fun (ps, ts) => (.multiPoint ps, ts)
      | .multiLineString =>
        (bracketedOr [] (items (path extra)) ts).map fun (ps, ts) => (.multiLineString ps, ts)
      | .multiPolygon =>
        (bracketedOr [] (items (polygon extra)) ts).map fun (ps, ts) => (.multiPolygon ps, ts)
      | .collection =>
        (bracketedOr [] (items (geometry fuel)) ts).map fun (gs, ts) => (.collection gs, ts)
    | _ => none

end Reader

/-- Reads a geometry from the front of a text. -/
def read? {α : Type} [Numeric α] [Scalar α] (s : String) : Option (Wkt α) :=
  let tokens := Token.ofText s
  (Reader.geometry (tokens.length + 1) tokens).map Prod.fst

end GeoLayers.Wkt
