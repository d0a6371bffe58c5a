import GeoLayers.Catalog.Basic

/-!
Columns as JSON.
-/

namespace GeoLayers

def Field.toJson (field : Field) : Json :=
  Json.ofMembers
    [("name", some (.text field.name)), ("alias", some (.text field.label)),
      ("type", some (.text field.type.name)), ("nullable", some (.bool field.nullable)),
      ("editable", some (.bool field.editable)), ("relatesTo", field.relatesTo.map .text)]

def Field.listJson (fields : List Field) : Json := .array (fields.map Field.toJson)

end GeoLayers
