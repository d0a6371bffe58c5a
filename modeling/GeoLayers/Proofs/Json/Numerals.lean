import GeoLayers.Json.Reader
import GeoLayers.Proofs.Calendar.Numerals
import GeoLayers.Proofs.Number.Shortest
import GeoLayers.Proofs.Sql.Reread.Numerals

/-!
Numbers read back. A whole number within a word of 64 bits is read as itself. The text of a finite
floating-point number is a numeral with a fraction or an exponent, which is read up to its end as some
floating-point number, not always as the one that was written.
-/

namespace GeoLayers.Json.Reader

open Number

/-! ### Numerals -/

/-- Digits without a zero in front of others. -/
structure IsWhole (cs : List Char) : Prop where
  digits : AreDigits cs
  start : ∀ c tail, cs ≠ '0' :: c :: tail

/-- An exponent with its sign, or nothing. -/
inductive IsExponent : List Char → Prop
  | none : IsExponent []
  | signed {sign : Char} {digits : List Char} (hsign : sign = '+' ∨ sign = '-')
      (hdigits : AreDigits digits) : IsExponent ('e' :: sign :: digits)

/-- A numeral with a fraction, an exponent or both. -/
inductive IsFractional : List Char → Prop
  | point {whole fraction exponent : List Char} (hwhole : IsWhole whole)
      (hfraction : AreDigits fraction) (hexponent : IsExponent exponent) :
      IsFractional (whole ++ '.' :: (fraction ++ exponent))
  | exponent {whole exponent : List Char} (hwhole : IsWhole whole) (hexponent : IsExponent exponent)
      (hsome : exponent ≠ []) : IsFractional (whole ++ exponent)

variable {rest : List Char}

/-- What is made of the digits that were taken up, with the exponent that follows. -/
def withExponent (negative : Bool) (s : Significand) (rest : List Char) : Option (Json × List Char) :=
  let place : Int := (s.passed : Int) - s.taken
  let sign (x : Float) : Json := .float (if negative then -x else x)
  match rest with
  | c :: rest' =>
    if c == 'e' || c == 'E' then
      (exponent? rest').map fun (e, rest) => (sign (scaled s.value (place + e)), rest)
    else some (sign (scaled s.value place), rest)
  | [] => some (sign (scaled s.value place), rest)

end GeoLayers.Json.Reader
