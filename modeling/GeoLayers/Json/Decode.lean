import GeoLayers.Json.Basic

/-!
Decoders: partial functions from JSON values to typed ones. A record is an object, whose unknown
members are passed over and whose known ones may not repeat, or an array with the values of its
fields in order.
-/

namespace GeoLayers.Json

/-- What reads a value of a type. -/
abbrev Decoder (α : Type) := Json → Option α

namespace Decoder

def bool : Decoder Bool
  | .bool b => some b
  | _ => none

def text : Decoder String := Json.text?

/-- A finite number. -/
def float : Decoder Float := fun v => v.float?.filter Number.isFinite

/-- A whole number within two bounds. -/
def intWithin (low high : Int) : Decoder Int
  | .integer n => if low ≤ n ∧ n ≤ high then some n else none
  | _ => none

def int32 : Decoder Int := intWithin Number.minInt32 Number.maxInt32

def int64 : Decoder Int := intWithin Number.minInt64 Number.maxInt64

/-- An unsigned word of 64 bits. -/
def count : Decoder Nat := fun v => (intWithin 0 Number.maxWord64 v).map Int.toNat

/-- Any value whose numbers are finite. -/
def any : Decoder Json := fun v => if v.isExpressible then some v.canonical else none

/-- A list, each of whose items is read by `item`. -/
def list {α : Type} (item : Decoder α) : Decoder (List α)
  | .array items => items.mapM item
  | _ => none

/-- One of some named values: the name, or an object whose only member has this name and holds
null. -/
def named {α : Type} (ofName? : String → Option α) : Decoder α
  | .text name => ofName? name
  | .object [(name, .null)] => ofName? name
  | _ => none

/-- A value or null. -/
def nullable {α : Type} (decode : Decoder α) : Decoder (Option α)
  | .null => some none
  | v => (decode v).map some

/-- An object as a map from the names of its members; of several with one name the last counts. -/
def dictionary {α : Type} (decode : Decoder α) : Decoder (Dictionary α)
  | .object members =>
    (members.mapM fun member : String × Json =>
      (decode member.2).map (member.1, ·)).map Dictionary.ofList
  | _ => none

def attributes : Decoder Attributes := dictionary any

end Decoder

/-- The values of the fields of an object, each at most once. -/
def fieldsOfObject (names : List String) (members : List (String × Json)) :
    Option (List (Option Json)) :=
  names.mapM fun name : String =>
    match members.filter (·.1 == name) with
    | [] => some none
    | [(_, v)] => some (some v)
    | _ => none

/-- The values of the fields of a record, in the order of `names`. -/
def fields? (names : List String) : Json → Option (List (Option Json))
  | .object members => fieldsOfObject names members
  | .array items =>
    if items.length ≤ names.length then
      some (items.map some ++ List.replicate (names.length - items.length) none)
    else none
  | _ => none

/-- A field that has to be there. -/
def required {α : Type} (decode : Decoder α) (field : Option Json) : Option α := field.bind decode

/-- A field with a value for its absence. -/
def orElse {α : Type} (decode : Decoder α) (value : α) : Option Json → Option α
  | none => some value
  | some v => decode v

/-- A field that may be missing or null. -/
def optional {α : Type} (decode : Decoder α) : Option Json → Option (Option α)
  | none => some none
  | some v => Decoder.nullable decode v

end GeoLayers.Json
