import GeoLayers.Geometry.Json
import GeoLayers.Json.Reader
import GeoLayers.Query.Request
import GeoLayers.Settings.Basic

/-!
Queries as clients write them: parameters that are all text. `toRequest` reads them in a fixed
order; the first that cannot be read is told.
-/

namespace GeoLayers

/-- The parameters of a query. -/
structure QueryParameters where
  clause : Option String := none
  objectIds : Option String := none
  geometryType : Option String := none
  geometry : Option String := none
  time : Option String := none
  outFields : Option String := none
  orderByFields : Option String := none
  returnIdsOnly : Option String := none
  returnCountOnly : Option String := none
  returnGeometry : Option String := none
  outSR : Option String := none
  limit : Option String := none
  offset : Option String := none
  format : Option String := none
  deriving DecidableEq, Repr, Inhabited

namespace Parameter

/-- A text without blanks around it, unless nothing is left. -/
def nonBlank (raw : Option String) : Option String :=
  (raw.map Text.trim).filter (· != "")

/-- The items of a list with commas, without blanks around them and without empty ones. -/
def listItems (raw : Option String) : List String :=
  ((Text.splitAt ',' (raw.getD "")).map Text.trim).filter (· != "")

/-- A flag: `true` or `1`, `false` or `0`, letters large or small; anything else is the default. -/
def flag (raw : Option String) (default : Bool) : Bool :=
  match raw.map fun s => Text.asciiLower (Text.trim s) with
  | none => default
  | some s =>
    if s == "true" || s == "1" then true
    else if s == "false" || s == "0" then false
    else default

/-- A whole number, if there is one. -/
def integer (raw : Option String) (name : String) : Except Error (Option Int) :=
  match nonBlank raw with
  | none => .ok none
  | some value =>
    match Number.int64? value with
    | some n => .ok (some n)
    | none => .error (.request (.notInteger name value))

/-- One object id. -/
def objectId (text : String) : Except Error Int :=
  match Number.int64? text with
  | some n => .ok n
  | none => .error (.request (.objectIdText text))

/-- A list of object ids. -/
def objectIds (raw : Option String) : Except Error (List Int) := (listItems raw).mapM objectId

/-- A reference system: its number, or an object with the number. -/
def outSrid (raw : Option String) : Except Error Int :=
  match nonBlank raw with
  | none => .ok webMercator
  | some value =>
    match Number.int32? value with
    | some n => .ok n
    | none =>
      match (Json.read? value).bind SpatialReference.decode with
      | some reference => .ok reference.wkid
      | none => .error (.request (.outSR value))

/-- A rectangle: an object, or four numbers with commas. -/
def envelope (raw : String) : Except GeometryFault (Envelope Float) :=
  if raw.startsWith "\x7b" then
    match (Json.read? raw).bind Envelope.decode with
    | some e => .ok e
    | none => .error .unreadableEnvelope
  else
    match (Text.splitAt ',' raw).mapM fun part => Number.float? (Text.trim part) with
    | none => .error (.envelopeText raw)
    | some [xmin, ymin, xmax, ymax] => .ok ⟨xmin, ymin, xmax, ymax⟩
    | some _ => .error (.envelopeSize raw)

/-- The text of a polygon to filter by. -/
def polygonFilter (raw : String) : Except GeometryFault String :=
  match (Json.read? raw).bind Geometry.decode with
  | none => .error .unreadableFilter
  | some geometry =>
    match geometry.shape with
    | .polygon rings => Shape.toText .crossings (.polygon rings)
    | _ => .error .filterNotPolygon

/-- A fault of a geometry as an error. -/
def liftGeometry {α : Type} (result : Except GeometryFault α) : Except Error α :=
  result.mapError .geometry

/-- The text of the geometry to filter by, if there is one. It is a rectangle if no kind is
given. -/
def filterGeometry (kind raw : Option String) : Except Error (Option String) :=
  match nonBlank raw with
  | none => .ok none
  | some raw =>
    let kind := (kind.map Text.trim).getD "esriGeometryEnvelope"
    if kind == "esriGeometryEnvelope" then
      liftGeometry ((envelope raw).map fun e => some e.toText)
    else if kind == "esriGeometryPolygon" then
      liftGeometry ((polygonFilter raw).map some)
    else .error (.request (.filterKind kind))

end Parameter

namespace QueryParameters

/-- Whether the answer is to be a table of comma-separated values. -/
def wantsCsv (p : QueryParameters) : Bool :=
  p.format.any fun s => Text.asciiLower (Text.trim s) == "csv"

/-- The limit and the start of the page. Queries for ids and by ids have no pages. -/
def paging (settings : Settings) (p : QueryParameters) (idsOnly : Bool) (ids : List Int) :
    Except Error (Int × Int) :=
  if idsOnly || !ids.isEmpty then .ok (0, 0)
  else do
    let limit ← Parameter.integer p.limit "limit"
    let offset ← Parameter.integer p.offset "offset"
    pure (settings.effectiveLimit limit, max (offset.getD 0) 0)

/-- The query that the parameters ask for. -/
def toRequest (settings : Settings) (p : QueryParameters) : Except Error QueryRequest := do
  let idsOnly := Parameter.flag p.returnIdsOnly false
  let ids ← Parameter.objectIds p.objectIds
  let (limit, offset) ← p.paging settings idsOnly ids
  let extent ← Parameter.filterGeometry p.geometryType p.geometry
  let time ← match p.time with
    | some raw => TimeRange.ofText raw
    | none => pure none
  let outSrid ← Parameter.outSrid p.outSR
  pure {
    fields := (Parameter.listItems p.outFields).map bareName
    clause := Parameter.nonBlank p.clause
    sort := (Parameter.listItems p.orderByFields).filterMap SortField.ofText?
    objectIds := ids
    extent, time, outSrid, limit, offset, idsOnly
    countOnly := Parameter.flag p.returnCountOnly false
    withGeometry := Parameter.flag p.returnGeometry true }

end QueryParameters

end GeoLayers
