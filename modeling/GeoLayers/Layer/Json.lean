import GeoLayers.Json.Decode
import GeoLayers.Layer.Basic

/-!
Services and layers as JSON.
-/

namespace GeoLayers

open Json

def GeometryKind.decode : Decoder GeometryKind := Decoder.named GeometryKind.ofName?

def GeometryKind.toJson (kind : GeometryKind) : Json := .text kind.name

def SpatialReference.decode : Decoder SpatialReference := fun v =>
  match fields? ["wkid"] v with
  | some [wkid] => do
    let wkid ← required Decoder.int32 wkid
    some { wkid }
  | _ => none

def SpatialReference.toJson (reference : SpatialReference) : Json :=
  .object [("wkid", .integer reference.wkid)]

def Extent.decode : Decoder Extent := fun v =>
  match fields? ["xmin", "ymin", "xmax", "ymax", "spatialReference"] v with
  | some [xmin, ymin, xmax, ymax, reference] => do
    let xmin ← required Decoder.float xmin
    let ymin ← required Decoder.float ymin
    let xmax ← required Decoder.float xmax
    let ymax ← required Decoder.float ymax
    let reference ← required SpatialReference.decode reference
    some { xmin, ymin, xmax, ymax, reference }
  | _ => none

def Extent.toJson (extent : Extent) : Json :=
  .object [("xmin", .float extent.xmin), ("ymin", .float extent.ymin),
    ("xmax", .float extent.xmax), ("ymax", .float extent.ymax),
    ("spatialReference", extent.reference.toJson)]

/-- A value, or null. -/
def Json.ofOption {α : Type} (encode : α → Json) : Option α → Json
  | none => .null
  | some x => encode x

def TimeInfo.decode : Decoder TimeInfo := fun v =>
  match fields? ["startTimeField", "timeInterval", "timeIntervalUnits"] v with
  | some [startField, interval, units] => do
    let startField ← required Decoder.text startField
    let interval ← optional Decoder.int64 interval
    let intervalUnits ← optional Decoder.text units
    some { startField, interval, intervalUnits }
  | _ => none

def TimeInfo.toJson (info : TimeInfo) : Json :=
  .object [("startTimeField", .text info.startField),
    ("timeInterval", Json.ofOption .integer info.interval),
    ("timeIntervalUnits", Json.ofOption .text info.intervalUnits)]

def Relation.decode : Decoder Relation := fun v =>
  match fields? ["relatedTitle", "relatedIndex", "sourceColumn", "targetColumn", "table"] v with
  | some [title, index, source, target, table] => do
    let title ← required Decoder.text title
    let index ← required Decoder.int32 index
    let sourceColumn ← required Decoder.text source
    let targetColumn ← required Decoder.text target
    let table ← required Decoder.text table
    some { title, index, sourceColumn, targetColumn, table }
  | _ => none

def Relation.toJson (relation : Relation) : Json :=
  .object [("relatedTitle", .text relation.title), ("relatedIndex", .integer relation.index),
    ("sourceColumn", .text relation.sourceColumn), ("targetColumn", .text relation.targetColumn),
    ("table", .text relation.table)]

/-- The names of the members of a layer. -/
def Layer.members : List String :=
  ["id", "name", "description", "table", "objectIdField", "geometryField", "geometryType", "srid",
    "displayField", "timeInfo", "drawingInfo", "relations"]

def Layer.decode : Decoder Layer := fun v =>
  match fields? Layer.members v with
  | some [id, name, description, table, objectId, geometry, kind, srid, display, time, drawing,
      relations] => do
    let id ← required Decoder.int32 id
    let name ← required Decoder.text name
    let description ← orElse Decoder.text "" description
    let table ← required Decoder.text table
    let objectIdField ← orElse Decoder.text "db_id" objectId
    let geometryField ← orElse Decoder.text "dbasin_geom" geometry
    let kind ← required GeometryKind.decode kind
    let srid ← orElse Decoder.int32 webMercator srid
    let displayField ← optional Decoder.text display
    let timeInfo ← optional TimeInfo.decode time
    let drawingInfo ← optional Decoder.any drawing
    let relations ← orElse (Decoder.list Relation.decode) [] relations
    some ⟨id, name, description, table, objectIdField, geometryField, kind, srid, displayField,
      timeInfo, drawingInfo, relations⟩
  | _ => none

def Layer.toJson (layer : Layer) : Json :=
  .object [("id", .integer layer.id), ("name", .text layer.name),
    ("description", .text layer.description), ("table", .text layer.table),
    ("objectIdField", .text layer.objectIdField), ("geometryField", .text layer.geometryField),
    ("geometryType", layer.kind.toJson), ("srid", .integer layer.srid),
    ("displayField", Json.ofOption .text layer.displayField),
    ("timeInfo", Json.ofOption TimeInfo.toJson layer.timeInfo),
    ("drawingInfo", layer.drawingInfo.getD .null),
    ("relations", .array (layer.relations.map Relation.toJson))]

/-- The names of the members of a service. -/
def Service.members : List String :=
  ["id", "description", "copyrightText", "spatialReference", "units", "allowGeometryUpdates",
    "initialExtent", "fullExtent", "layers"]

def Service.decode : Decoder Service := fun v =>
  match fields? Service.members v with
  | some [id, description, copyright, reference, units, updates, initial, full, layers] => do
    let id ← required Decoder.text id
    let description ← orElse Decoder.text "" description
    let copyrightText ← orElse Decoder.text "" copyright
    let reference ← orElse SpatialReference.decode {} reference
    let units ← orElse Decoder.text "esriMeters" units
    let allowGeometryUpdates ← orElse Decoder.bool true updates
    let initialExtent ← orElse Extent.decode .world initial
    let fullExtent ← orElse Extent.decode .world full
    let layers ← orElse (Decoder.list Layer.decode) [] layers
    some ⟨id, description, copyrightText, reference, units, allowGeometryUpdates, initialExtent,
      fullExtent, layers⟩
  | _ => none

def Service.toJson (service : Service) : Json :=
  .object [("id", .text service.id), ("description", .text service.description),
    ("copyrightText", .text service.copyrightText),
    ("spatialReference", service.reference.toJson), ("units", .text service.units),
    ("allowGeometryUpdates", .bool service.allowGeometryUpdates),
    ("initialExtent", service.initialExtent.toJson), ("fullExtent", service.fullExtent.toJson),
    ("layers", .array (service.layers.map Layer.toJson))]

end GeoLayers
