import GeoLayers.Database.Session
import GeoLayers.Layer.Basic
import GeoLayers.Statement.Quote

/-!
What part of space and time the rows of a layer cover, as the database tells it.
-/

namespace GeoLayers

open Database

namespace Layer

/-- The question for the rectangle around all rows, a kilometre wider on every side. -/
def extentStatement (layer : Layer) : Statement :=
  ⟨"SELECT ST_XMin(b) AS xmin, ST_YMin(b) AS ymin, ST_XMax(b) AS xmax, ST_YMax(b) AS ymax " ++
    "FROM (SELECT ST_Expand(CAST(ST_Extent(ST_Transform(" ++ quoteName layer.geometryField ++
    ", " ++ toString webMercator ++ ")) AS box2d), 1000) AS b FROM " ++ quoteName layer.table ++
    ") AS e", []⟩

/-- The rectangle that an answer tells. An answer without one stands for the whole world. -/
def extentOf (answer : Answer) : Extent :=
  match answer.rows with
  | [.double xmin, .double ymin, .double xmax, .double ymax] :: _ => ⟨xmin, ymin, xmax, ymax, {}⟩
  | _ => .world

/-- The rectangle around all rows. If the database cannot tell it, it is the whole world. -/
def askExtent (layer : Layer) : Work Extent := do
  match ← Work.ask (.run layer.extentStatement [.double, .double, .double, .double]) with
  | .ok answer => pure (extentOf answer)
  | .error _ => pure .world

/-- The first and the last time of a layer's rows, in milliseconds. -/
structure TimeExtent where
  first : Int
  last : Int
  deriving DecidableEq, Repr, Inhabited

def TimeExtent.toJson (extent : TimeExtent) : Json :=
  .array [.integer extent.first, .integer extent.last]

/-- The question for the first and the last time. -/
def timeStatement (layer : Layer) (timeField : String) : Statement :=
  let column := columnOf layer.table timeField
  ⟨"SELECT (EXTRACT(EPOCH FROM MIN(" ++ column ++ ")::timestamp) * 1000)::bigint AS min_ms, " ++
    "(EXTRACT(EPOCH FROM MAX(" ++ column ++ ")::timestamp) * 1000)::bigint AS max_ms FROM " ++
    quoteName layer.table, []⟩

def timeExtentOf (answer : Answer) : Option TimeExtent :=
  match answer.rows with
  | [.bigInt first, .bigInt last] :: _ => some ⟨first, last⟩
  | _ => none

/-- The first and the last time of a layer that has a column with times. -/
def askTimeExtent (layer : Layer) : Work (Option TimeExtent) :=
  match layer.timeField? with
  | none => pure none
  | some field => do
    let answer ← Work.runPlain (layer.timeStatement field) [.bigInt, .bigInt]
    pure (timeExtentOf answer)

end Layer

end GeoLayers
