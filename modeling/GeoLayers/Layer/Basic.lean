import GeoLayers.Json.Basic

/-!
Services and their layers, as they are configured. A layer publishes one table; its relations name
further tables whose rows belong to the layer's rows.
-/

namespace GeoLayers

/-- The kinds of geometry that a layer can hold. -/
inductive GeometryKind where
  | point | polyline | polygon
  deriving DecidableEq, Repr, Inhabited

/-- The public name of a kind of geometry. -/
def GeometryKind.name : GeometryKind → String
  | .point => "esriGeometryPoint"
  | .polyline => "esriGeometryPolyline"
  | .polygon => "esriGeometryPolygon"

/-- The kind of geometry with a public name. -/
def GeometryKind.ofName? (name : String) : Option GeometryKind :=
  [.point, .polyline, .polygon].find? (·.name == name)

/-- The number of the Web Mercator reference system. -/
def webMercator : Int := 3857

/-- The alias of a layer's own table in a query. -/
def sourceAlias : String := "source"

/-- The column of a query's answer that holds the geometry's text. -/
def geometryColumn : String := "st_astext"

/-- The number of a reference system. -/
structure SpatialReference where
  wkid : Int := webMercator
  deriving DecidableEq, Repr, Inhabited

/-- A rectangle that holds what is shown. -/
structure Extent where
  xmin : Float
  ymin : Float
  xmax : Float
  ymax : Float
  reference : SpatialReference := {}
  deriving Repr, Inhabited

/-- The whole world, poles apart. -/
def Extent.world : Extent := ⟨-20000000, -7000000, 20000000, 18000000, {}⟩

/-- The column with the time of a layer's rows, and the steps that the time goes in. -/
structure TimeInfo where
  startField : String
  interval : Option Int := none
  intervalUnits : Option String := none
  deriving DecidableEq, Repr, Inhabited

/-- A table whose rows belong to a layer's rows: those whose `targetColumn` equals the layer row's
`sourceColumn`. -/
structure Relation where
  title : String
  index : Int
  sourceColumn : String
  targetColumn : String
  table : String
  deriving DecidableEq, Repr, Inhabited

/-- A published table. -/
structure Layer where
  id : Int
  name : String
  description : String := ""
  table : String
  objectIdField : String := "db_id"
  geometryField : String := "dbasin_geom"
  kind : GeometryKind
  srid : Int := webMercator
  displayField : Option String := none
  timeInfo : Option TimeInfo := none
  drawingInfo : Option Json := none
  relations : List Relation := []
  deriving Inhabited

/-- The column with the time of a layer's rows. -/
def Layer.timeField? (layer : Layer) : Option String := layer.timeInfo.map (·.startField)

/-- A set of layers that are published together. -/
structure Service where
  id : String
  description : String := ""
  copyrightText : String := ""
  reference : SpatialReference := {}
  units : String := "esriMeters"
  allowGeometryUpdates : Bool := true
  initialExtent : Extent := .world
  fullExtent : Extent := .world
  layers : List Layer := []
  deriving Inhabited

/-- The layer of a service with a number. -/
def Service.layer? (service : Service) (id : Int) : Option Layer :=
  service.layers.find? (·.id == id)

end GeoLayers
