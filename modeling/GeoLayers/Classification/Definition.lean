import GeoLayers.Error
import GeoLayers.Json.Decode
import GeoLayers.Json.Reader

/-!
What a client asks a layer to be classified by: the values of a field, each on its own, or classes
of numbers.
-/

namespace GeoLayers.Classification

open Json

/-- The ways to cut numbers into classes. -/
inductive Method where
  | equalInterval | quantile | naturalBreaks
  deriving DecidableEq, Repr, Inhabited

namespace Method

def name : Method → String
  | .equalInterval => "esriClassifyEqualInterval"
  | .quantile => "esriClassifyQuantile"
  | .naturalBreaks => "esriClassifyNaturalBreaks"

def ofName? (name : String) : Option Method :=
  [.equalInterval, .quantile, .naturalBreaks].find? (·.name == name)

/-- A method is read like other named values; an empty object may stand for null. -/
def decode : Decoder Method
  | .object [(name, .object [])] => ofName? name
  | v => Decoder.named ofName? v

end Method

/-- A classification. -/
inductive Definition where
  | uniqueValues (fields : List String)
  | classBreaks (field : String) (method : Method) (count : Nat)
  deriving DecidableEq, Repr, Inhabited

namespace Definition

def decodeUniqueValues : Decoder Definition := fun v =>
  match fields? ["uniqueValueFields"] v with
  | some [fields] => (required (Decoder.list Decoder.text) fields).map .uniqueValues
  | _ => none

def decodeClassBreaks : Decoder Definition := fun v =>
  match fields? ["classificationField", "classificationMethod", "breakCount"] v with
  | some [field, method, count] => do
    let field ← required Decoder.text field
    let method ← orElse Method.decode .equalInterval method
    let count ← orElse Decoder.count 5 count
    some (.classBreaks field method count)
  | _ => none

/-- The value under `type` and what is left. In an array it is the first item. -/
def cutType? : Json → Option (Json × Json)
  | .object members =>
    match members.filter (·.1 == "type") with
    | [(_, type)] => some (type, .object (members.filter (·.1 != "type")))
    | _ => none
  | .array (type :: items) => some (type, .array items)
  | _ => none

/-- Reads a classification. All numbers in it have to be finite, also those that are passed
over. -/
def decode : Decoder Definition := fun v => do
  let (type, body) ← cutType? v
  if !body.isExpressible then none
  else match type with
    | .text "uniqueValueDef" => decodeUniqueValues body
    | .text "classBreaksDef" => decodeClassBreaks body
    | _ => none

/-- Reads a classification from a text. -/
def ofText (text : String) : Except Error Definition :=
  match (Json.read? text).bind decode with
  | some definition => .ok definition
  | none => .error (.request .definition)

end Definition

end GeoLayers.Classification
