import GeoLayers.Number.Shortest

/-!
How numbers are written. The digits are always the shortest that read back; a `Layout` says what
is made of them.
-/

namespace GeoLayers.Number

/-- The decisions of a format for numbers. -/
structure Layout where
  /-- The exponents of the first digit that are written without an exponent: from `least` to below
  `bound`. None for no limit. -/
  least : Option Int
  bound : Option Int
  /-- Whether a whole number without an exponent ends with `.0`. -/
  pointZero : Bool
  /-- What stands between `e` and a positive exponent. -/
  plus : String
  tie : Tie
  nan : String
  infinity : String

/-- Coordinates and cells are written without exponents, whole numbers without a point. -/
def Layout.positional : Layout where
  least := none
  bound := none
  pointZero := false
  plus := ""
  tie := .up
  nan := "NaN"
  infinity := "inf"

/-- JSON numbers show a point or an exponent. Numbers that JSON cannot express are `null`. -/
def Layout.json : Layout where
  least := some (-5)
  bound := some 16
  pointZero := true
  plus := "+"
  tie := .toEven
  nan := "null"
  infinity := "null"

/-- A text of zeros. -/
def zeros (n : Nat) : String := String.ofList (List.replicate n '0')

/-- Digits with the point after the digit for units; `top` is the exponent of the first digit. -/
def Layout.plainText (layout : Layout) (digits : List Char) (top : Int) : String :=
  let count := digits.length
  if top < 0 then "0." ++ zeros (-top - 1).toNat ++ String.ofList digits
  else
    let whole := top.toNat + 1
    if count ≤ whole then
      String.ofList digits ++ zeros (whole - count) ++ (if layout.pointZero then ".0" else "")
    else String.ofList (digits.take whole) ++ "." ++ String.ofList (digits.drop whole)

/-- Digits with an exponent. -/
def Layout.exponentText (layout : Layout) (digits : List Char) (top : Int) : String :=
  let mantissa := match digits with
    | [] => "0"
    | [d] => d.toString
    | d :: rest => d.toString ++ "." ++ String.ofList rest
  let exponent := if top < 0 then "-" ++ toString (-top).toNat else layout.plus ++ toString top.toNat
  mantissa ++ "e" ++ exponent

/-- The text of a number. -/
def Layout.text (layout : Layout) (x : Float) : String :=
  match Binary.ofFloat x with
  | .nan => layout.nan
  | .infinite negative =>
    if negative && layout.infinity != layout.nan then "-" ++ layout.infinity else layout.infinity
  | .finite negative mantissa exponent =>
    let sign := if negative then "-" else ""
    if mantissa = 0 then sign ++ (if layout.pointZero then "0.0" else "0")
    else
      let decimal := shortest layout.tie mantissa exponent
      let digits := Nat.toDigits 10 decimal.digits
      let top := decimal.exponent + digits.length - 1
      let isPlain := (layout.least.all (· ≤ top)) && (layout.bound.all (top < ·))
      sign ++ (if isPlain then layout.plainText digits top else layout.exponentText digits top)

end GeoLayers.Number
