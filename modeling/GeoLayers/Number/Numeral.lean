import GeoLayers.Number.Binary
import GeoLayers.Text.Blank

/-!
Reading numbers. Whole numbers are decimal digits after an optional sign; other numbers may have a
fraction and an exponent, or be one of the words for infinity and not-a-number, and are rounded to
the nearest `Float`.
-/

namespace GeoLayers.Number

/-- The value of a digit. -/
def digit? (c : Char) : Option Nat :=
  if '0' ≤ c ∧ c ≤ '9' then some (c.toNat - '0'.toNat) else none

def isDigit (c : Char) : Bool := (digit? c).isSome

/-- The number that some digits are, after digits that are `start`. -/
def digitsFrom (start : Nat) (cs : List Char) : Nat :=
  cs.foldl (fun n c => 10 * n + (digit? c).getD 0) start

/-- The number that one or more digits are. -/
def natOfChars? (cs : List Char) : Option Nat :=
  if cs.isEmpty || !cs.all isDigit then none else some (digitsFrom 0 cs)

/-- A whole number within two bounds: digits after an optional sign. A minus sign is not read where
no bound is negative. -/
def intWithin? (low high : Int) (s : String) : Option Int := do
  let n ← match s.toList with
    | '+' :: cs => (natOfChars? cs).map Int.ofNat
    | '-' :: cs => if low < 0 then (natOfChars? cs).map fun n => -Int.ofNat n else none
    | cs => (natOfChars? cs).map Int.ofNat
  if low ≤ n ∧ n ≤ high then some n else none

/-- A signed word of 64 bits. -/
def int64? : String → Option Int := intWithin? minInt64 maxInt64

/-- A signed word of 32 bits. -/
def int32? : String → Option Int := intWithin? minInt32 maxInt32

/-- An unsigned word of some number of bits. -/
def word? (bits : Nat) : String → Option Int := intWithin? 0 ((Nat.pow 2 bits : Nat) - 1)

/-- The `Float` nearest to `digits · 10 ^ exponent`. Exponents far outside the range are not
expanded. -/
def nearest (digits : Nat) (exponent : Int) : Float :=
  let top := exponent + (Nat.toDigits 10 digits).length
  if digits = 0 then 0
  else if 400 < top then 1 / 0
  else if top < -400 then 0
  else if 0 ≤ exponent then Float.ofScientific digits false exponent.toNat
  else Float.ofScientific digits true (-exponent).toNat

/-- The exponent of a numeral, from its mark on. -/
def exponent? : List Char → Option Int
  | [] => some 0
  | c :: cs =>
    if c == 'e' || c == 'E' then
      match cs with
      | '+' :: cs => (natOfChars? cs).map Int.ofNat
      | '-' :: cs => (natOfChars? cs).map fun n => -Int.ofNat n
      | cs => (natOfChars? cs).map Int.ofNat
    else none

/-- A number without a sign: digits with an optional fraction and exponent, or a word. -/
def unsigned? (cs : List Char) : Option Float :=
  let whole := cs.takeWhile isDigit
  let rest := cs.dropWhile isDigit
  let fraction := match rest with
    | '.' :: rest => rest.takeWhile isDigit
    | _ => []
  let rest := match rest with
    | '.' :: rest => rest.dropWhile isDigit
    | rest => rest
  if whole.isEmpty && fraction.isEmpty then
    let word := Text.asciiLower (String.ofList cs)
    if word == "inf" || word == "infinity" then some (1 / 0)
    else if word == "nan" then some (0 / 0)
    else none
  else
    (exponent? rest).map fun e =>
      nearest (digitsFrom (digitsFrom 0 whole) fraction) (e - fraction.length)

/-- A number. -/
def float? (s : String) : Option Float :=
  match s.toList with
  | '+' :: cs => unsigned? cs
  | '-' :: cs => (unsigned? cs).map fun x => -x
  | cs => unsigned? cs

end GeoLayers.Number
