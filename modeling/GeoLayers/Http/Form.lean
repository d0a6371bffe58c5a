import GeoLayers.Text.Blank
import GeoLayers.Text.Utf8

/-!
Forms as they stand in a query or a body: pairs of a name and a value, joined by ampersands, with
plus signs for blanks and percent signs before the two digits of a byte.
-/

namespace GeoLayers.Http

/-- The value of a hexadecimal digit. -/
def hexValue? (b : UInt8) : Option UInt8 :=
  if '0'.toUInt8 ≤ b ∧ b ≤ '9'.toUInt8 then some (b - '0'.toUInt8)
  else if 'a'.toUInt8 ≤ b ∧ b ≤ 'f'.toUInt8 then some (b - 'a'.toUInt8 + 10)
  else if 'A'.toUInt8 ≤ b ∧ b ≤ 'F'.toUInt8 then some (b - 'A'.toUInt8 + 10)
  else none

/-- Resolves percent signs. One that no two digits follow stands for itself. -/
def percentDecode : List UInt8 → List UInt8
  | [] => []
  | [a] => [a]
  | [a, b] => [a, b]
  | a :: b :: c :: bytes =>
    match hexValue? b, hexValue? c with
    | some high, some low =>
      if a = '%'.toUInt8 then (high * 16 + low) :: percentDecode bytes
      else a :: percentDecode (b :: c :: bytes)
    | _, _ => a :: percentDecode (b :: c :: bytes)

/-- A name or a value of a form. -/
def formText (cs : List Char) : String :=
  let bytes := (Text.toUtf8 (String.ofList cs)).map fun b =>
    if b = '+'.toUInt8 then ' '.toUInt8 else b
  Text.ofUtf8Lossy (percentDecode bytes)

/-- The names and values of a form. A name may be there several times. -/
abbrev Form := List (String × String)

namespace Form

/-- One pair. A name without an equals sign has an empty value. -/
def pair (cs : List Char) : String × String :=
  match Text.cutFirst '=' cs with
  | some (name, value) => (formText name, formText value)
  | none => (formText cs, "")

def ofText (text : String) : Form :=
  ((Text.splitWhen (· == '&') text.toList).filter fun cs => !cs.isEmpty).map pair

/-- The value under any of some names. Fails if there are several. -/
def value? (form : Form) (names : List String) : Option (Option String) :=
  match form.filter fun pair => names.contains pair.1 with
  | [] => some none
  | [(_, value)] => some (some value)
  | _ => none

end Form

end GeoLayers.Http
