import GeoLayers.Catalog.Json
import GeoLayers.Layer.Bounds
import GeoLayers.Layer.Json
import GeoLayers.Settings.Basic

/-!
What clients are told about a service and about a layer.
-/

namespace GeoLayers

/-- The version of the interface. -/
def interfaceVersion : Float := 10.2

/-- What clients can do with a layer. -/
def capabilities : String := "Query,Editing"

/-- The forms that answers come in. -/
def queryFormats : String := "JSON, CSV"

/-- A layer in the description of its service. -/
def Layer.summary (layer : Layer) : Json :=
  .object [("id", .integer layer.id), ("name", .text layer.name), ("minScale", .integer 0),
    ("maxScale", .integer 0)]

/-- The layers of a service by their numbers. -/
def Service.layersInOrder (service : Service) : List Layer :=
  service.layers.mergeSort fun a b => a.id ≤ b.id

/-- The description of a service. -/
def Service.describe (service : Service) (settings : Settings) : Json :=
  .object
    [("currentVersion", .float interfaceVersion),
      ("serviceDescription", .text ""),
      ("description", .text service.description),
      ("copyrightText", .text service.copyrightText),
      ("capabilities", .text capabilities),
      ("supportedQueryFormats", .text queryFormats),
      ("supportsAdvancedQueries", .bool true),
      ("hasVersionedData", .bool false),
      ("supportsDisconnectedEditing", .bool false),
      ("maxRecordCount", .integer settings.maxLimit),
      ("units", .text service.units),
      ("spatialReference", service.reference.toJson),
      ("initialExtent", service.initialExtent.toJson),
      ("fullExtent", service.fullExtent.toJson),
      ("allowGeometryUpdates", .bool service.allowGeometryUpdates),
      ("layers", .array (service.layersInOrder.map Layer.summary))]

/-- A related table in the description of a layer. -/
def RelatedCatalog.summary (related : RelatedCatalog) : Json :=
  .object
    [("name", .text related.relation.title),
      ("fields", .array (related.fields.map fun field =>
        Json.ofMembers [("name", some (.text field.name)), ("type", some (.text field.type.name)),
          ("relatesTo", field.relatesTo.map .text)]))]

/-- The times in the description of a layer. -/
def TimeInfo.summary (info : TimeInfo) (extent : Option Layer.TimeExtent) : Json :=
  Json.ofMembers
    [("startTimeField", some (.text info.startField)),
      ("timeExtent", some ((extent.map Layer.TimeExtent.toJson).getD (.array []))),
      ("timeInterval", info.interval.map .integer),
      ("timeIntervalUnits", info.intervalUnits.map .text)]

/-- The description of a layer. -/
def Layer.describe (layer : Layer) (catalog : Catalog) (extent : Extent)
    (times : Option Layer.TimeExtent) (settings : Settings) : Json :=
  Json.ofMembers
    [("currentVersion", some (.float interfaceVersion)),
      ("id", some (.integer layer.id)),
      ("name", some (.text layer.name)),
      ("type", some (.text "Feature Layer")),
      ("description", some (.text layer.description)),
      ("geometryType", some layer.kind.toJson),
      ("objectIdField", some (.text layer.objectIdField)),
      ("globalIdField", some (.text layer.objectIdField)),
      ("displayField", layer.displayField.map .text),
      ("capabilities", some (.text capabilities)),
      ("supportsAdvancedQueries", some (.bool true)),
      ("supportedQueryFormats", some (.text queryFormats)),
      ("hasAttachments", some (.bool false)),
      ("htmlPopupType", some (.text "esriServerHTMLPopupTypeNone")),
      ("maxRecordCount", some (.integer settings.maxLimit)),
      ("minScale", some (.integer 0)),
      ("maxScale", some (.integer 0)),
      ("types", some (.array [])),
      ("templates", some (.array [])),
      ("fields", some (Field.listJson catalog.fields)),
      ("relatedTables", some (.array (catalog.related.map RelatedCatalog.summary))),
      ("extent", some extent.toJson),
      ("drawingInfo", layer.drawingInfo),
      ("timeInfo", layer.timeInfo.map fun info => info.summary times)]

end GeoLayers
