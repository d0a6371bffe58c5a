import GeoLayers.Json.Basic
import GeoLayers.Number.Numeral

/-!
Reading JSON text. Objects keep all members in the order of the text. Arrays and objects nest at
most 127 deep. A numeral with a fraction or an exponent is the leading digits that fit a word of 64
bits, as a floating-point number, multiplied with or divided by a power of ten in floating-point
arithmetic; out of range it is infinite.
-/

namespace GeoLayers.Json.Reader

/-- The blanks between tokens. -/
def isSpace (c : Char) : Bool := c == ' ' || c == '\n' || c == '\t' || c == '\r'

def skip (cs : List Char) : List Char := cs.dropWhile isSpace

/-- Digits taken up in a numeral: their value, how many digits before the point were passed over,
and how many behind it were taken. -/
structure Significand where
  value : Nat
  passed : Nat := 0
  taken : Nat := 0

/-- Whether a digit can be appended within a word of 64 bits. -/
def fits (n d : Nat) : Bool := 10 * n + d < Number.words64

/-- Takes up the digits before the point. From the first that does not fit on they are passed
over. -/
def takeWhole : Significand → List Char → Significand
  | s, [] => s
  | s, c :: cs =>
    let d := (Number.digit? c).getD 0
    if s.passed = 0 && fits s.value d then takeWhole { s with value := 10 * s.value + d } cs
    else takeWhole { s with passed := s.passed + 1 } cs

/-- Takes up the digits behind the point, up to the first that does not fit. -/
def takeFraction : Significand → List Char → Significand
  | s, [] => s
  | s, c :: cs =>
    let d := (Number.digit? c).getD 0
    if fits s.value d then
      takeFraction { s with value := 10 * s.value + d, taken := s.taken + 1 } cs
    else s

/-- A power of ten in the range of floating-point numbers. -/
def powerOfTen (n : Nat) : Float := Float.ofScientific 1 false n

/-- Divides by powers of ten, the last of them at most `10 ^ 308`. Four rounds bring every number
to zero. -/
def dividedBy (x : Float) (n : Nat) : Nat → Float
  | 0 => 0
  | rounds + 1 =>
    if n ≤ 308 then x / powerOfTen n
    else if x == 0 then x
    else dividedBy (x / powerOfTen 308) (n - 308) rounds

/-- The floating-point number of a numeral without its sign. -/
def scaled (digits : Nat) (exponent : Int) : Float :=
  let x := digits.toUInt64.toFloat
  if exponent < 0 then dividedBy x (-exponent).toNat 4
  else if exponent ≤ 308 then x * powerOfTen exponent.toNat
  else if digits = 0 then 0
  else 1 / 0

/-- The exponent after its mark, and the rest. -/
def exponent? (cs : List Char) : Option (Int × List Char) :=
  let signed (cs : List Char) (sign : Int) :=
    (Number.natOfChars? (cs.takeWhile Number.isDigit)).map fun n =>
      (sign * n, cs.dropWhile Number.isDigit)
  match cs with
  | '+' :: cs => signed cs 1
  | '-' :: cs => signed cs (-1)
  | cs => signed cs 1

/-- A numeral after its sign, and the rest. -/
def numeral? (negative : Bool) (cs : List Char) : Option (Json × List Char) :=
  let whole := cs.takeWhile Number.isDigit
  let rest := cs.dropWhile Number.isDigit
  let sign (x : Float) : Json := .float (if negative then -x else x)
  let start := takeWhole ⟨0, 0, 0⟩ whole
  match whole with
  | [] => none
  | '0' :: _ :: _ => none
  | _ =>
    let withExponent (s : Significand) (rest : List Char) : Option (Json × List Char) :=
      let place : Int := (s.passed : Int) - s.taken
      match rest with
      | c :: rest' =>
        if c == 'e' || c == 'E' then
          (exponent? rest').map fun (e, rest) => (sign (scaled s.value (place + e)), rest)
        else some (sign (scaled s.value place), rest)
      | [] => some (sign (scaled s.value place), rest)
    match rest with
    | '.' :: rest =>
      let fraction := rest.takeWhile Number.isDigit
      if fraction.isEmpty then none
      else withExponent (takeFraction start fraction) (rest.dropWhile Number.isDigit)
    | c :: _ =>
      if c == 'e' || c == 'E' then withExponent start rest else some (plain negative start, rest)
    | [] => some (plain negative start, rest)
where
  /-- A numeral without a fraction and an exponent. -/
  plain (negative : Bool) (s : Significand) : Json :=
    if s.passed ≠ 0 then
      let x := scaled s.value s.passed
      .float (if negative then -x else x)
    else if !negative then .integer s.value
    else if 0 < s.value && 2 * s.value ≤ Number.words64 then .integer (-(s.value : Int))
    else .float (-s.value.toUInt64.toFloat)

/-- Four hexadecimal digits, and the rest. -/
def hex4? : List Char → Option (Nat × List Char)
  | a :: b :: c :: d :: rest => do
    let a ← hex? a
    let b ← hex? b
    let c ← hex? c
    let d ← hex? d
    some (((a * 16 + b) * 16 + c) * 16 + d, rest)
  | _ => none
where
  hex? (c : Char) : Option Nat :=
    if '0' ≤ c ∧ c ≤ '9' then some (c.toNat - 48)
    else if 'a' ≤ c ∧ c ≤ 'f' then some (c.toNat - 87)
    else if 'A' ≤ c ∧ c ≤ 'F' then some (c.toNat - 55)
    else none

/-- The character that an escape stands for, after the backslash, and the rest. Code units of
pairs have to come in pairs. -/
def escape? : List Char → Option (Char × List Char)
  | '"' :: cs => some ('"', cs)
  | '\\' :: cs => some ('\\', cs)
  | '/' :: cs => some ('/', cs)
  | 'b' :: cs => some (Char.ofNat 8, cs)
  | 'f' :: cs => some (Char.ofNat 12, cs)
  | 'n' :: cs => some ('\n', cs)
  | 'r' :: cs => some ('\r', cs)
  | 't' :: cs => some ('\t', cs)
  | 'u' :: cs => do
    let (first, rest) ← hex4? cs
    if 0xDC00 ≤ first ∧ first ≤ 0xDFFF then none
    else if 0xD800 ≤ first ∧ first ≤ 0xDBFF then
      match rest with
      | '\\' :: 'u' :: rest =>
        let (second, rest) ← hex4? rest
        if 0xDC00 ≤ second ∧ second ≤ 0xDFFF then
          some (Char.ofNat (0x10000 + (first - 0xD800) * 0x400 + (second - 0xDC00)), rest)
        else none
      | _ => none
    else some (Char.ofNat first, rest)
  | _ => none

/-- A text up to its closing quote, and the rest; `fuel` bounds its characters. The characters
that were read stand in reverse order. -/
def body? (read : List Char) : Nat → List Char → Option (String × List Char)
  | 0, _ => none
  | _ + 1, [] => none
  | fuel + 1, c :: cs =>
    if c == '"' then some (String.ofList read.reverse, cs)
    else if c == '\\' then
      match escape? cs with
      | some (e, rest) => body? (e :: read) fuel rest
      | none => none
    else if c.toNat < 0x20 then none
    else body? (c :: read) fuel cs

/-- What follows a word. -/
def word? (word : String) (value : Json) (cs : List Char) : Option (Json × List Char) :=
  (Text.afterStart word.toList cs).map (value, ·)

mutual

/-- A value, with at most `depth` arrays and objects around each part of it, and the rest. -/
def value? (depth : Nat) : Nat → List Char → Option (Json × List Char)
  | 0, _ => none
  | fuel + 1, cs =>
    match skip cs with
    | '"' :: rest => (body? [] (rest.length + 1) rest).map fun (s, rest) => (.text s, rest)
    | '-' :: rest => numeral? true rest
    | '[' :: rest =>
      if depth ≤ 1 then none
      else match skip rest with
        | ']' :: rest => some (.array [], rest)
        | rest => (items? (depth - 1) fuel rest).map fun (vs, rest) => (.array vs, rest)
    | '{' :: rest =>
      if depth ≤ 1 then none
      else match skip rest with
        | '}' :: rest => some (.object [], rest)
        | rest => (members? (depth - 1) fuel rest).map fun (ms, rest) => (.object ms, rest)
    | 'n' :: rest => word? "ull" .null rest
    | 't' :: rest => word? "rue" (.bool true) rest
    | 'f' :: rest => word? "alse" (.bool false) rest
    | cs => numeral? false cs

/-- The items of an array up to its closing bracket. -/
def items? (depth : Nat) : Nat → List Char → Option (List Json × List Char)
  | 0, _ => none
  | fuel + 1, cs => do
    let (v, rest) ← value? depth fuel cs
    match skip rest with
    | ',' :: rest =>
      let (vs, rest) ← items? depth fuel rest
      some (v :: vs, rest)
    | ']' :: rest => some ([v], rest)
    | _ => none

/-- The members of an object up to its closing brace. -/
def members? (depth : Nat) : Nat → List Char → Option (List (String × Json) × List Char)
  | 0, _ => none
  | fuel + 1, cs => do
    match skip cs with
    | '"' :: rest =>
      let (name, rest) ← body? [] (rest.length + 1) rest
      match skip rest with
      | ':' :: rest =>
        let (v, rest) ← value? depth fuel rest
        match skip rest with
        | ',' :: rest =>
          let (ms, rest) ← members? depth fuel rest
          some ((name, v) :: ms, rest)
        | '}' :: rest => some ([(name, v)], rest)
        | _ => none
      | _ => none
    | _ => none

end

end GeoLayers.Json.Reader

namespace GeoLayers.Json

/-- The most arrays and objects around a value, and one more. -/
def depthBound : Nat := 128

/-- Reads a text that is one value. -/
def read? (s : String) : Option Json :=
  let cs := s.toList
  match Reader.value? depthBound (2 * cs.length + 2) cs with
  | some (v, rest) => if (Reader.skip rest).isEmpty then some v else none
  | none => none

end GeoLayers.Json
