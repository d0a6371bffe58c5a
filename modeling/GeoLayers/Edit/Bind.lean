import GeoLayers.Catalog.Basic
import GeoLayers.Statement.Basic
import GeoLayers.Time

/-!
Attributes as parameters of statements. The type of the column decides how a value is read; a value
that does not fit is refused.
-/

namespace GeoLayers

/-- The type of parameter for a column, by the name of its type in the database. -/
def BindKind.ofNative (native : String) : BindKind :=
  if native ∈ ["integer", "smallint"] then .int
  else if native = "bigint" then .bigInt
  else if native ∈ ["double precision", "real", "numeric"] then .float
  else if native = "boolean" then .bool
  else if native ∈ ["date", "timestamp without time zone", "timestamp with time zone"] then
    .timestamp
  else .text

/-- The whole number that a value stands for: a number without a fraction, brought into the range
of 64 bits, or a text with a whole number in that range. -/
def wholeValue? : Json → Option Int
  | .integer n => some (max Number.minInt64 (min Number.maxInt64 n))
  | .float x => if Number.isWhole x then some (Number.toInt64Clamped x) else none
  | .text s => Number.int64? (Text.trim s)
  | _ => none

/-- The number that a value stands for. -/
def numberValue? : Json → Option Float
  | .text s => Number.float? (Text.trim s)
  | value => value.float?

/-- The truth value that a value stands for. -/
def flagValue? : Json → Option Bool
  | .bool b => some b
  | .text s =>
    let word := Text.asciiLower (Text.trim s)
    if word == "true" || word == "1" then some true
    else if word == "false" || word == "0" then some false
    else none
  | value => value.int64?.map (· != 0)

/-- The text of a value: a text itself, JSON for all else. -/
def textValue : Json → String
  | .text s => s
  | value => value.compress

/-- A value as the parameter for a column. -/
def bindValue (field : Field) (value : Json) : Except Error Bind :=
  let kind := BindKind.ofNative field.native
  let fitting (bind : Option Bind) : Except Error Bind :=
    match bind with
    | some bind => .ok bind
    | none => .error (.request (.unfit value field.name field.native))
  if value.isNull then .ok (.null kind)
  else match kind with
    | .int =>
      fitting (((wholeValue? value).filter fun n =>
        Number.minInt32 ≤ n && n ≤ Number.maxInt32).map .int)
    | .bigInt => fitting ((wholeValue? value).map .bigInt)
    | .float => fitting ((numberValue? value).map .float)
    | .bool => fitting ((flagValue? value).map .bool)
    | .timestamp => (momentOfValue value).map .timestamp
    | .text => .ok (.text (textValue value))

end GeoLayers
