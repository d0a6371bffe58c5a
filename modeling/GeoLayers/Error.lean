import GeoLayers.Database.Fault
import GeoLayers.Layer.Basic

/-!
Why a request is refused or fails. Each cause is a constructor; `Error.message` is the text that the
client reads, `Error.code` the short name for programs.
-/

namespace GeoLayers

/-- What is wrong with a where clause. -/
inductive ClauseFault where
  /-- The text is outside the grammar. -/
  | unreadable
  | severalStatements
  | placeholder
  | notBoolean
  | nestedQuery
  /-- A word that would start another clause. -/
  | keyword (word : String)
  deriving DecidableEq, Repr, Inhabited

/-- What is wrong with a geometry. -/
inductive GeometryFault where
  /-- The text is no geometry. -/
  | unreadable (text : String)
  /-- Several points, or none, where one is expected. -/
  | notOnePoint (text : String)
  | unsupported (text : String)
  | otherKind (expected found : GeometryKind)
  | shortPath
  | noRing
  | unreadableFilter
  | filterNotPolygon
  | unreadableEnvelope
  | envelopeText (text : String)
  | envelopeSize (text : String)
  deriving DecidableEq, Repr, Inhabited

/-- What is wrong with a parameter or an attribute. -/
inductive RequestFault where
  | timeOrder
  | timeText (text : String)
  | timeRange (millis : Int)
  | date (value : Json)
  /-- A value that is none of a column's type. -/
  | unfit (value : Json) (column type : String)
  | objectIdValue (value : Json)
  | objectIdText (text : String)
  | notInteger (parameter text : String)
  | outSR (text : String)
  | filterKind (name : String)
  /-- A list of features that cannot be read. -/
  | features (parameter : String)
  | definition
  | noDefinition
  | noValueField
  | notNumeric (field : String)
  | noTime (layer : Int)
  deriving Inhabited

/-- What is not there. -/
inductive Missing where
  | service (id : String)
  | layer (service : String) (id : Int)
  | table (table layer : String)
  | feature (id : Int) (layer : String)
  | row
  deriving DecidableEq, Repr, Inhabited

/-- Why a request is refused or fails. -/
inductive Error where
  | unauthorized
  | request (fault : RequestFault)
  | missing (what : Missing)
  | clause (fault : ClauseFault)
  | unknownFields (fields : List String)
  | relatedFields (fields : List String)
  | geometry (fault : GeometryFault)
  | missingAttributes (fields : List String)
  | unknownAttributes (fields : List String)
  | query (fault : Database.Fault)
  | internal
  deriving Inhabited

/-- What is said in place of the details of a text that could not be read. -/
def unreadableNote : String := "the text cannot be read"

def ClauseFault.message : ClauseFault → String
  | .unreadable => unreadableNote
  | .severalStatements => "multiple statements are not allowed"
  | .placeholder => "bind placeholders are not allowed"
  | .notBoolean => "expected a boolean expression"
  | .nestedQuery => "subqueries are not allowed"
  | .keyword word => "unexpected keyword " ++ word

def GeometryFault.message : GeometryFault → String
  | .unreadable text => "invalid geometry '" ++ text ++ "': " ++ unreadableNote
  | .notOnePoint text => "invalid point geometry: " ++ text
  | .unsupported text => "unsupported geometry kind in '" ++ text ++ "'"
  | .otherKind expected found =>
    "expected " ++ expected.name ++ " geometry, got " ++ found.name
  | .shortPath => "polyline paths need at least two points"
  | .noRing => "polygon has no ring with at least four points"
  | .unreadableFilter => "invalid polygon filter: " ++ unreadableNote
  | .filterNotPolygon => "geometry is not a polygon"
  | .unreadableEnvelope => "invalid envelope: " ++ unreadableNote
  | .envelopeText text => "invalid envelope '" ++ text ++ "'"
  | .envelopeSize text => "envelope needs four coordinates, got '" ++ text ++ "'"

def RequestFault.message : RequestFault → String
  | .timeOrder => "time range start must be before end"
  | .timeText text => "invalid time value '" ++ text ++ "'"
  | .timeRange millis => "time value " ++ toString millis ++ " out of range"
  | .date value => "invalid date value " ++ value.compress
  | .unfit value column type =>
    "value " ++ value.compress ++ " does not fit column '" ++ column ++ "' (" ++ type ++ ")"
  | .objectIdValue value => "invalid object id " ++ value.compress
  | .objectIdText text => "invalid object id '" ++ text ++ "'"
  | .notInteger parameter text => parameter ++ " must be an integer, got '" ++ text ++ "'"
  | .outSR text => "invalid outSR '" ++ text ++ "'"
  | .filterKind name => "unsupported geometryType '" ++ name ++ "'"
  | .features parameter => "invalid " ++ parameter ++ ": " ++ unreadableNote
  | .definition => "invalid classificationDef: " ++ unreadableNote
  | .noDefinition => "Missing classificationDef parameter"
  | .noValueField => "uniqueValueFields must not be empty"
  | .notNumeric field => "field '" ++ field ++ "' is not numeric"
  | .noTime layer => "layer " ++ toString layer ++ " is not time enabled"

def Missing.message : Missing → String
  | .service id => "service '" ++ id ++ "'"
  | .layer owner id => "layer " ++ toString id ++ " of service '" ++ owner ++ "'"
  | .table name user => "table '" ++ name ++ "' for layer '" ++ user ++ "'"
  | .feature id holder => "feature " ++ toString id ++ " in '" ++ holder ++ "'"
  | .row => "no matching feature"

namespace Error

/-- The text that the client reads. -/
def message : Error → String
  | .unauthorized => "authentication failed"
  | .request fault => "invalid request: " ++ fault.message
  | .missing what => "not found: " ++ what.message
  | .clause fault => "Invalid where clause: " ++ fault.message
  | .unknownFields fields => "Invalid fields: " ++ ", ".intercalate fields
  | .relatedFields fields => "Related fields not allowed: " ++ ", ".intercalate fields
  | .geometry fault => "invalid geometry: " ++ fault.message
  | .missingAttributes fields => "Missing attributes " ++ ",".intercalate fields
  | .unknownAttributes fields => "attributes do not match: " ++ ",".intercalate fields
  | .query fault => "query failed: " ++ fault.summary
  | .internal => "internal error"

/-- The short name of the kind of error. -/
def code : Error → String
  | .unauthorized => "AUTH"
  | .request _ => "INVALID_REQUEST"
  | .missing _ => "NOT_FOUND"
  | .clause _ => "INVALID_SQL"
  | .unknownFields _ => "INVALID_FIELDS"
  | .relatedFields _ => "RELATED_FIELDS"
  | .geometry _ => "GEOMETRY_FORMAT"
  | .missingAttributes _ | .unknownAttributes _ => "ATTRIBUTE_MISMATCH"
  | .query fault => fault.kind.name
  | .internal => "INTERNAL"

/-- The fields or attributes that an error is about. -/
def fields? : Error → Option (List String)
  | .unknownFields fields | .relatedFields fields | .missingAttributes fields
  | .unknownAttributes fields => some fields
  | _ => none

end Error

end GeoLayers
