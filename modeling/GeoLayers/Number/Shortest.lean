import GeoLayers.Number.Binary

/-!
The shortest decimal text of a binary number: the fewest digits that read back as the same number,
and of those the digits nearest to it. Reading rounds to nearest, so a decimal reads back exactly
if it lies between the midpoints to the two neighbours of the number (midpoints included when the
mantissa is even). For each number of digits only two decimals can do: the two neighbours of the
number on the grid of that many digits.
-/

namespace GeoLayers.Number

/-- A decimal `digits · 10 ^ exponent`. -/
structure Decimal where
  digits : Nat
  exponent : Int
  deriving DecidableEq, Repr, Inhabited

/-- What to take of two decimals of the same length that are equally near. -/
inductive Tie where
  | up
  | toEven
  deriving DecidableEq, Repr, Inhabited

/-- The interval of numbers that are read as one binary number, with the number itself, all as
multiples of `1 / scale`. -/
structure Neighbourhood where
  low : Nat
  value : Nat
  high : Nat
  scale : Nat
  closed : Bool
  deriving Repr

/-- The neighbourhood of `mantissa · 2 ^ exponent`. Below a power of two the neighbours lie half as
far apart. -/
def Neighbourhood.of (mantissa : Nat) (exponent : Int) : Neighbourhood :=
  let factor := if 2 ≤ exponent then Nat.pow 2 (exponent - 2).toNat else 1
  let scale := if 2 ≤ exponent then 1 else Nat.pow 2 (2 - exponent).toNat
  let below := if mantissa = leadingBit ∧ -1074 < exponent then 1 else 2
  { low := (4 * mantissa - below) * factor
    value := 4 * mantissa * factor
    high := (4 * mantissa + 2) * factor
    scale := scale
    closed := mantissa % 2 = 0 }

/-- Whether `n / d` lies in a neighbourhood, the unit being `1 / scale`. -/
def Neighbourhood.contains (b : Neighbourhood) (n d : Nat) : Bool :=
  let point := n * b.scale
  if b.closed then b.low * d ≤ point && point ≤ b.high * d
  else b.low * d < point && point < b.high * d

/-- The number of decimal digits of a number. -/
def digitCount (n : Nat) : Nat := (Nat.toDigits 10 n).length

/-- The exponent `e` with `10 ^ e ≤ n / d < 10 ^ (e + 1)`. -/
def magnitude (n d : Nat) : Int :=
  let guess : Int := (digitCount n : Int) - digitCount d
  let reached :=
    if 0 ≤ guess then decide (d * Nat.pow 10 guess.toNat ≤ n) else decide (d ≤ n * Nat.pow 10 (-guess).toNat)
  if reached then guess else guess - 1

/-- The decimals on one grid that read back: of the two neighbours of the number on the grid of
multiples of `10 ^ place`, the nearest in the neighbourhood. -/
def onGrid? (tie : Tie) (b : Neighbourhood) (place : Int) : Option Nat :=
  let unit := if 0 ≤ place then Nat.pow 10 place.toNat else 1
  let parts := if 0 ≤ place then 1 else Nat.pow 10 (-place).toNat
  -- The number is `value * parts / (scale * unit)` steps of the grid.
  let whole := b.value * parts / (b.scale * unit)
  let rest := b.value * parts % (b.scale * unit)
  let hasFloor := 0 < whole && b.contains (whole * unit) parts
  let hasCeiling := b.contains ((whole + 1) * unit) parts
  match hasFloor, hasCeiling with
  | true, true =>
    if 2 * rest < b.scale * unit then some whole
    else if b.scale * unit < 2 * rest then some (whole + 1)
    else match tie with
      | .up => some (whole + 1)
      | .toEven => some (if whole % 2 = 0 then whole else whole + 1)
  | true, false => some whole
  | false, true => some (whole + 1)
  | false, false => none

/-- The first grid with a decimal that reads back, from `digits` digits on. -/
def firstGrid (tie : Tie) (b : Neighbourhood) (top : Int) (digits : Nat) : Nat → Option Decimal
  | 0 => none
  | fuel + 1 =>
    let place := top + 1 - digits
    match onGrid? tie b place with
    | some n => some ⟨n, place⟩
    | none => firstGrid tie b top (digits + 1) fuel

/-- A decimal without zeros at the end of its digits; `fuel` bounds their number. -/
def Decimal.strip : Nat → Decimal → Decimal
  | 0, d => d
  | fuel + 1, d =>
    if d.digits ≠ 0 ∧ d.digits % 10 = 0 then Decimal.strip fuel ⟨d.digits / 10, d.exponent + 1⟩
    else d

/-- The shortest decimal of `mantissa · 2 ^ exponent`, which is not zero. Seventeen digits always
do. -/
def shortest (tie : Tie) (mantissa : Nat) (exponent : Int) : Decimal :=
  let b := Neighbourhood.of mantissa exponent
  let top := magnitude b.value b.scale
  ((firstGrid tie b top 1 17).map (Decimal.strip 20)).getD ⟨0, 0⟩

end GeoLayers.Number
