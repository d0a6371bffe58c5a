import GeoLayers.Error
import GeoLayers.Json.Reader
import GeoLayers.Layer.Json

/-!
The registry: the services that are published. Names of tables and columns that stand in it have to
be plain, titles of relations must not clash, and numbers and ids are used once; a registry that
breaks a rule is refused for the first rule that it breaks, in the order of its text.
-/

namespace GeoLayers

/-- Whether a name is plain: ASCII letters, digits and underscores, no digit in front. -/
def isPlainName (name : String) : Bool :=
  match name.toList with
  | [] => false
  | c :: cs => (c.isAlpha || c == '_') && cs.all fun c => c.isAlphanum || c == '_'

/-- What a name in the description of a layer is the name of. -/
inductive NameRole where
  | table | objectIdField | geometryField | displayField | startTimeField
  | relatedTitle | relationTable | sourceColumn | targetColumn
  deriving DecidableEq, Repr, Inhabited

def NameRole.label : NameRole → String
  | .table => "table"
  | .objectIdField => "objectIdField"
  | .geometryField => "geometryField"
  | .displayField => "displayField"
  | .startTimeField => "startTimeField"
  | .relatedTitle => "relatedTitle"
  | .relationTable => "relation table"
  | .sourceColumn => "sourceColumn"
  | .targetColumn => "targetColumn"

/-- What is wrong with the description of a layer. -/
inductive LayerFault where
  | unsafeName (role : NameRole) (name : String)
  | reservedTitle (title : String)
  | repeatedTitle (title : String)
  deriving DecidableEq, Repr, Inhabited

def LayerFault.message : LayerFault → String
  | .unsafeName role name => role.label ++ " '" ++ name ++ "' is not a safe identifier"
  | .reservedTitle title => "relatedTitle '" ++ title ++ "' is reserved"
  | .repeatedTitle title => "duplicate relatedTitle '" ++ title ++ "'"

/-- What is wrong with a registry. -/
inductive RegistryFault where
  | unreadable
  | repeatedService (id : String)
  | repeatedLayer (service : String) (layer : Int)
  | inLayer (service : String) (layer : Int) (fault : LayerFault)
  deriving DecidableEq, Repr, Inhabited

namespace RegistryFault

/-- The cause alone. -/
def cause : RegistryFault → String
  | .unreadable => unreadableNote
  | .repeatedService id => "duplicate service id '" ++ id ++ "'"
  | .repeatedLayer service layer =>
    "service '" ++ service ++ "' declares layer " ++ toString layer ++ " twice"
  | .inLayer _ _ fault => fault.message

/-- The place and the cause. -/
def message : RegistryFault → String
  | .unreadable => "malformed registry JSON: " ++ unreadableNote
  | .inLayer service layer fault =>
    "service '" ++ service ++ "' layer " ++ toString layer ++ ": " ++ fault.message
  | fault => fault.cause

end RegistryFault

/-- What a check of each item finds, in the order of the items. A check sees the earlier items. -/
def checkEach {α β : Type} (check : List α → α → List β) (earlier : List α) : List α → List β
  | [] => []
  | item :: items => check earlier item ++ checkEach check (item :: earlier) items

/-- The names that are not plain. -/
def unsafeNames (names : List (NameRole × String)) : List LayerFault :=
  (names.filter fun (_, name) => !isPlainName name).map fun (role, name) => .unsafeName role name

def Relation.faults (earlier : List Relation) (relation : Relation) : List LayerFault :=
  unsafeNames [(.relatedTitle, relation.title), (.relationTable, relation.table),
      (.sourceColumn, relation.sourceColumn), (.targetColumn, relation.targetColumn)] ++
    (if relation.title = sourceAlias then [.reservedTitle relation.title] else []) ++
    if relation.title ∈ earlier.map (·.title) then [.repeatedTitle relation.title] else []

def Layer.faults (layer : Layer) : List LayerFault :=
  unsafeNames ([(.table, layer.table), (.objectIdField, layer.objectIdField),
      (.geometryField, layer.geometryField)] ++
      layer.displayField.toList.map (.displayField, ·) ++
      layer.timeField?.toList.map (.startTimeField, ·)) ++
    checkEach Relation.faults [] layer.relations

def Service.layerFaults (service : Service) (earlier : List Layer) (layer : Layer) :
    List RegistryFault :=
  (if layer.id ∈ earlier.map (·.id) then [.repeatedLayer service.id layer.id] else []) ++
    layer.faults.map (.inLayer service.id layer.id)

def Service.faults (earlier : List Service) (service : Service) : List RegistryFault :=
  (if service.id ∈ earlier.map (·.id) then [.repeatedService service.id] else []) ++
    checkEach service.layerFaults [] service.layers

/-- All that is wrong with some services, in the order of their text. -/
def registryFaults (services : List Service) : List RegistryFault :=
  checkEach Service.faults [] services

/-- Services that break no rule. -/
structure Registry where
  services : List Service
  sound : registryFaults services = []

namespace Registry

/-- The registry without services. -/
def empty : Registry := ⟨[], rfl⟩

instance : Inhabited Registry := ⟨empty⟩

/-- The registry of some services, if they break no rule. -/
def ofServices (services : List Service) : Except RegistryFault Registry :=
  match h : registryFaults services with
  | [] => .ok ⟨services, h⟩
  | fault :: _ => .error fault

open Json in
def decodeServices : Decoder (List Service) := fun v =>
  match fields? ["services"] v with
  | some [services] => orElse (Decoder.list Service.decode) [] services
  | _ => none

/-- Reads a registry from a text. -/
def ofText (text : String) : Except RegistryFault Registry :=
  match (Json.read? text).bind decodeServices with
  | some services => ofServices services
  | none => .error .unreadable

/-- The service with an id. -/
def service (registry : Registry) (id : String) : Except Error Service :=
  match registry.services.find? (·.id == id) with
  | some service => .ok service
  | none => .error (.missing (.service id))

/-- A layer of a service by its number, with the service. -/
def layer (registry : Registry) (serviceId : String) (id : Int) :
    Except Error (Service × Layer) := do
  let service ← registry.service serviceId
  match service.layer? id with
  | some layer => pure (service, layer)
  | none => throw (.missing (.layer serviceId id))

end Registry

end GeoLayers
