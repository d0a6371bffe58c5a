import GeoLayers.Calendar.Reader
import GeoLayers.Error

/-!
Moments in parameters and attributes. Moments are given in milliseconds since 1970; attributes may
also hold them as text.
-/

namespace GeoLayers

open Calendar

/-- A stretch of time, both ends included. -/
structure TimeRange where
  start : Moment
  stop : Moment
  deriving DecidableEq, Repr, Inhabited

namespace TimeRange

def isInstant (range : TimeRange) : Bool := range.start = range.stop

end TimeRange

/-- The moment with a number of milliseconds. -/
def momentOfMillis (millis : Int) : Except Error Moment :=
  match Moment.ofMillis? millis with
  | some m => .ok m
  | none => .error (.request (.timeRange millis))

/-- The whole milliseconds that a numeral stands for; a fraction is cut off. -/
def millisOfText? (text : String) : Option Int :=
  let text := Text.trim text
  match Number.int64? text with
  | some n => some n
  | none => do
    let x ← Number.float? text
    if Number.isFinite x && Float.abs x < 9223372036854775808 then
      some (Number.toInt64Clamped x)
    else none

/-- The moment that a numeral stands for. -/
def momentOfText (text : String) : Except Error Moment :=
  match millisOfText? text with
  | some millis => momentOfMillis millis
  | none => .error (.request (.timeText text))

/-- The stretch of time that a parameter gives: one moment, or two with a comma between them. A
blank parameter gives none. -/
def TimeRange.ofText (raw : String) : Except Error (Option TimeRange) :=
  let raw := Text.trim raw
  if raw.isEmpty then .ok none
  else
    let (first, last) := (Text.cutAt ',' raw).getD (raw, raw)
    do
      let start ← momentOfText first
      let stop ← momentOfText last
      if stop.before start then throw (.request .timeOrder)
      pure (some ⟨start, stop⟩)

/-- The moment that an attribute holds. -/
def momentOfValue (value : Json) : Except Error Moment :=
  match value with
  | .integer n => momentOfMillis (max Number.minInt64 (min Number.maxInt64 n))
  | .float x => momentOfMillis (Number.toInt64Clamped x)
  | .text s =>
    match Moment.ofText? s with
    | some m => .ok m
    | none => .error (.request (.date value))
  | _ => .error (.request (.date value))

end GeoLayers
