import GeoLayers.Proofs.Server.Reading
import GeoLayers.Proofs.Server.Validation
import GeoLayers.Server.Respond

/-!
Who may write. Only a POST to the edits of a layer can lead to a command that writes, and only with
the key, if the service has one. Such a request says nothing to the database unless it has the key,
names a layer that there is and gives lists that can be read; all other requests only read.
-/

namespace GeoLayers

open Database Http

variable {σ : Type}

/-- The text of the first header with a name in small letters, whatever its characters. -/
def Http.Request.firstHeader? (request : Request) (name : String) : Option String :=
  (request.headers.find? fun header => Text.asciiLower header.1 == name).map Prod.snd

/-- Whether a request posts edits to a layer, by the parts of its path that name the service and the
layer. -/
structure PostsEdits (request : Request) (service layer : String) : Prop where
  method : request.method = .post
  path : Text.splitAt '/' request.path =
    ["", "rest", "services", service, "FeatureServer", layer, "applyEdits"]

/-- Whether a request that posts edits to a layer is let through to the database. A key can be
given only if it is a text that a header can hold. -/
structure Admits (server : Server) (request : Request) (service layer : String) : Prop where
  key : ∀ key, server.settings.apiKey = some key →
    request.firstHeader? "x-api-key" = some key ∧ key.toList.all isHeaderText = true
  target : ∃ id number found, Route.part? service = some id ∧
    (Route.part? layer).bind Number.int32? = some number ∧
    server.registry.layer id number = .ok found
  batch : request.hasForm = true ∧ ∃ parameters batch,
    Edit.Parameters.ofForm? (.ofText request.body) = some parameters ∧
    parameters.toBatch = .ok batch

namespace Route

theorem layerEndpoint?_eq_edits {name : String} (h : layerEndpoint? name = some .edits) :
    name = "applyEdits" := by
  unfold layerEndpoint? at h
  split at h
  case isTrue => cases h
  case isFalse =>
    split at h
    case isTrue => cases h
    case isFalse =>
      split at h
      case isTrue hname => exact hname
      case isFalse =>
        split at h
        case isTrue => cases h
        case isFalse => cases h

theorem ofServicePath?_edits {service : String} {parts : List String} {route : Route}
    (h : ofServicePath? service parts = some route) (hedits : route.endpoint = .edits) :
    ∃ layer, parts = ["FeatureServer", layer, "applyEdits"] ∧ route = ⟨.edits, service, layer⟩ := by
  unfold ofServicePath? at h
  split at h
  case h_1 =>
    obtain rfl := Option.some.inj h
    cases hedits
  case h_2 =>
    split at h
    case isTrue => cases h
    case isFalse =>
      obtain rfl := Option.some.inj h
      cases hedits
  case h_3 layer name =>
    obtain ⟨endpoint, hendpoint, rfl⟩ := Option.map_eq_some_iff.1 h
    obtain rfl : endpoint = .edits := hedits
    exact ⟨layer, by rw [layerEndpoint?_eq_edits hendpoint], rfl⟩
  case h_4 => cases h

/-- The only path to edits. -/
theorem ofPath?_edits {path : String} {route : Route} (h : ofPath? path = some route)
    (hedits : route.endpoint = .edits) :
    ∃ service layer, Text.splitAt '/' path =
      ["", "rest", "services", service, "FeatureServer", layer, "applyEdits"] := by
  unfold ofPath? at h
  split at h
  case h_1 =>
    obtain rfl := Option.some.inj h
    cases hedits
  case h_2 service rest hpath =>
    obtain ⟨layer, rfl, -⟩ := ofServicePath?_edits h hedits
    exact ⟨service, layer, hpath⟩
  case h_3 => cases h

theorem ofPath?_of_edits {path service layer : String} (h : Text.splitAt '/' path =
      ["", "rest", "services", service, "FeatureServer", layer, "applyEdits"]) :
    ofPath? path = some ⟨.edits, service, layer⟩ := by
  rw [ofPath?, h]
  rfl

end Route

namespace Server

variable (server : Server) (request : Request) (responder : Responder σ) (state : σ)

/-- The key is the text of the first header that is named for it. -/
theorem hasKey_iff : server.hasKey request = true ↔
    ∀ key, server.settings.apiKey = some key →
      request.firstHeader? "x-api-key" = some key ∧ key.toList.all isHeaderText = true := by
  have hname : Text.asciiLower "x-api-key" = "x-api-key" := by decide
  rw [hasKey]
  cases hkey : server.settings.apiKey with
  | none => simp
  | some key =>
      rw [beq_iff_eq, Request.header?, hname, Request.firstHeader?]
      cases hfound : request.headers.find? fun header => Text.asciiLower header.1 == "x-api-key" with
      | none => simp
      | some header =>
          by_cases htext : header.2.toList.all isHeaderText = true
          · simp only [Option.bind_some, if_pos htext, Option.map_some]
            constructor
            · rintro hown _ ⟨⟩
              exact ⟨hown, Option.some.inj hown ▸ htext⟩
            · exact fun h => (h key rfl).1
          · simp only [Option.bind_some, if_neg htext, Option.map_some]
            apply iff_of_false nofun
            intro h
            obtain ⟨hown, hkeyText⟩ := h key rfl
            rw [← Option.some.inj hown] at hkeyText
            exact htext hkeyText

/-- The response is made without the database, once the request has been served. -/
theorem exchanges_respond {route : Route} (hroute : Route.ofPath? request.path = some route)
    (hserves : route.endpoint.serves request.method = true) :
    ((server.respond request).run responder state).exchanges =
      (Session.run responder (ExceptT.run (server.serve request route)) state).exchanges := by
  obtain ⟨answer, hrespond, hdone⟩ : ∃ answer,
      server.respond request = Session.bind (ExceptT.run (server.serve request route)) answer ∧
        ∀ result, ∃ response, answer result = .done response := by
    rw [respond, hroute]
    simp only [hserves, Bool.not_true, Bool.false_eq_true, if_false]
    refine ⟨_, rfl, ?_⟩
    intro result
    cases result with
    | error status => exact ⟨_, rfl⟩
    | ok result => exact ⟨_, rfl⟩
  rw [hrespond, Session.exchanges_run_bind]
  obtain ⟨response, hresponse⟩ :=
    hdone (Session.run responder (ExceptT.run (server.serve request route)) state).value
  simp [hresponse, Session.run]

/-- A path that leads nowhere and a method that does not fit are answered without the database. -/
theorem exchanges_respond_of_unserved (h : ∀ route, Route.ofPath? request.path = some route →
      route.endpoint.serves request.method = false) :
    ((server.respond request).run responder state).exchanges = [] := by
  rw [respond]
  cases hroute : Route.ofPath? request.path with
  | none => rfl
  | some route =>
      simp only [h route hroute, Bool.not_false, if_true]
      rfl

theorem permitted_reading {allowed : Command → Prop} {α : Type} (status : Nat) (value : Option α) :
    Permitted allowed (Handler.reading status value) := by
  cases value with
  | none => exact permitted_throw _
  | some value => exact permitted_pure _

theorem permitted_formOf {allowed : Command → Prop} : Permitted allowed (formOf request) := by
  unfold formOf
  split
  · split
    · exact permitted_pure _
    · exact permitted_throw _
  · exact permitted_pure _

theorem permitted_target {allowed : Command → Prop} (route : Route) :
    Permitted allowed (target route) := by
  apply permitted_bind (permitted_reading 400 _)
  intro service
  exact permitted_bind (permitted_reading 400 _) fun _ => permitted_pure _

theorem permitted_content {allowed : Command → Prop} {α : Type} {work : Work α}
    (encode : α → Content) (h : Permitted allowed work) :
    Permitted allowed (Handler.content encode work) := by
  have hlift : Permitted allowed
      (ExceptT.lift (ExceptT.run work) : ExceptT Nat Session (Except Error α)) :=
    Session.Permitted.bind h fun _ => trivial
  exact permitted_bind hlift fun _ => permitted_pure _

/-- Whatever is asked for, unless it is edits, is served by reading. -/
theorem permitted_serve {route : Route} (hedits : route.endpoint ≠ .edits) :
    Permitted Command.Reads (server.serve request route) := by
  unfold serve
  cases hendpoint : route.endpoint with
  | health => exact permitted_pure _
  | service => exact permitted_bind (permitted_reading 400 _) fun _ => permitted_pure _
  | layer =>
      apply permitted_bind (permitted_target route)
      intro (service, layer)
      exact permitted_content _ (server.permitted_layerInfo service layer)
  | query =>
      apply permitted_bind (permitted_target route)
      intro (service, layer)
      apply permitted_bind (permitted_formOf request)
      intro form
      apply permitted_bind (permitted_reading _ _)
      intro parameters
      exact permitted_content _ (server.permitted_query service layer parameters)
  | renderer =>
      apply permitted_bind (permitted_target route)
      intro (service, layer)
      apply permitted_bind (permitted_formOf request)
      intro form
      apply permitted_bind (permitted_reading _ _)
      intro parameters
      exact permitted_content _ (server.permitted_generateRenderer service layer parameters)
  | edits => exact absurd hendpoint hedits
  | times =>
      apply permitted_bind (permitted_target route)
      intro (service, layer)
      exact permitted_content _ (server.permitted_timeQuery service layer)

/-- A request that does not post edits only reads. -/
theorem reads_of_not_postsEdits (h : ∀ service layer, ¬PostsEdits request service layer) :
    ∀ exchange ∈ ((server.respond request).run responder state).exchanges,
      exchange.1.Reads := by
  by_cases hserved : ∃ route, Route.ofPath? request.path = some route ∧
      route.endpoint.serves request.method = true
  · obtain ⟨route, hroute, hserves⟩ := hserved
    have hedits : route.endpoint ≠ .edits := by
      intro hedits
      obtain ⟨service, layer, hpath⟩ := Route.ofPath?_edits hroute hedits
      rw [hedits] at hserves
      exact h service layer ⟨of_decide_eq_true hserves, hpath⟩
    rw [server.exchanges_respond request responder state hroute hserves]
    exact Session.Permitted.of_mem_exchanges (server.permitted_serve request hedits) responder state
  · have hunserved : ∀ route, Route.ofPath? request.path = some route →
        route.endpoint.serves request.method = false := by
      intro route hroute
      cases hserves : route.endpoint.serves request.method with
      | false => rfl
      | true => exact absurd ⟨route, hroute, hserves⟩ hserved
    rw [server.exchanges_respond_of_unserved request responder state hunserved]
    simp

section Says

variable {α ε : Type}

/-- Whether a run of some work says anything. -/
def Says (work : ExceptT ε Session α) : Prop :=
  (Session.run responder (ExceptT.run work) state).exchanges ≠ []

theorem not_says_pure (value : α) : ¬Says responder state (pure value : ExceptT ε Session α) :=
  fun h => h rfl

theorem not_says_throw (e : ε) : ¬Says responder state (throw e : ExceptT ε Session α) :=
  fun h => h rfl

theorem says_reading_bind {β : Type} {status : Nat} {value : Option α}
    {f : α → ExceptT Nat Session β} : Says responder state (Handler.reading status value >>= f) ↔
      ∃ read, value = some read ∧ Says responder state (f read) := by
  cases value with
  | none => exact iff_of_false (not_says_throw responder state status) (by simp)
  | some read =>
      change Says responder state (f read) ↔ _
      simp

theorem says_target_bind {β : Type} {route : Route} {f : String × Int → ExceptT Nat Session β} :
    Says responder state (target route >>= f) ↔
      ∃ id number, route.serviceId? = some id ∧ route.layerId? = some number ∧
        Says responder state (f (id, number)) := by
  unfold target
  cases route.serviceId? with
  | none => exact iff_of_false (not_says_throw responder state 400) (by simp)
  | some id =>
      cases route.layerId? with
      | none => exact iff_of_false (not_says_throw responder state 400) (by simp)
      | some number =>
          change Says responder state (f (id, number)) ↔ _
          simp

theorem says_formOf_bind {β : Type} {f : Form → ExceptT Nat Session β}
    (hpost : request.method = .post) : Says responder state (formOf request >>= f) ↔
      request.hasForm = true ∧ Says responder state (f (.ofText request.body)) := by
  rw [formOf, if_pos hpost]
  cases request.hasForm with
  | false => exact iff_of_false (not_says_throw responder state 415) (by simp)
  | true =>
      change Says responder state (f (.ofText request.body)) ↔ _
      simp

theorem says_content (encode : α → Content) (work : Work α) :
    Says responder state (Handler.content encode work) ↔ Says responder state work := by
  have hcontent : (Session.run responder (ExceptT.run (Handler.content encode work)) state).exchanges =
      (Session.run responder (ExceptT.run work) state).exchanges := by
    unfold Handler.content
    rw [exchanges_run_bind, exchanges_run_lift]
    cases (Session.run responder (ExceptT.run (ExceptT.lift (ExceptT.run work) :
      ExceptT Nat Session (Except Error α))) state).value <;> exact List.append_nil _
  rw [Says, Says, hcontent]

theorem says_openLayer_bind {layer : Layer} {f : Catalog → Work α} :
    Says responder state (openLayer layer >>= f) ↔ (responder.connect state).1 = true := by
  rw [Says, openLayer_bind, Work.run_checkout_bind]
  split
  case isFalse hconnected => simp [hconnected]
  case isTrue hconnected =>
    rw [exchanges_run_bind]
    have hlookup := Catalog.trace_lookup (Work.trace_run responder (Catalog.lookup layer)
      (responder.connect state).2)
    simp [hlookup.ne_nil, hconnected]

theorem says_check_bind {β : Type} {check : Except Error α} {f : α → Work β} :
    Says responder state (liftM check >>= f : Work β) ↔
      ∃ value, check = .ok value ∧ Says responder state (f value) := by
  rw [Says, Work.run_check_bind]
  cases check with
  | error e => simp
  | ok value => simp [Says]

end Says

/-- Edits say something exactly if the layer is there, the lists can be read and there is a
connection: then the columns are asked for. -/
theorem says_applyEdits (service : String) (id : Int) (parameters : Edit.Parameters) :
    Says responder state (server.applyEdits service id parameters) ↔
      ∃ found batch, server.registry.layer service id = .ok found ∧
        parameters.toBatch = .ok batch ∧ (responder.connect state).1 = true := by
  unfold applyEdits
  simp only [says_check_bind, says_openLayer_bind]
  simp

/-- Edits that are posted to a layer say something exactly if they are let through and there is a
connection. -/
theorem says_serve_edits {service layer : String} (hpost : request.method = .post) :
    Says responder state (server.serve request ⟨.edits, service, layer⟩) ↔
      Admits server request service layer ∧ (responder.connect state).1 = true := by
  unfold serve
  dsimp only
  rw [says_target_bind]
  simp only [says_formOf_bind request responder state hpost, says_reading_bind]
  constructor
  · rintro ⟨id, number, hid, hnumber, hform, parameters, hparameters, hsays⟩
    split at hsays
    case isFalse => exact (not_says_pure responder state _ hsays).elim
    case isTrue hkey =>
      rw [says_content, says_applyEdits] at hsays
      obtain ⟨found, batch, hfound, hbatch, hconnected⟩ := hsays
      exact ⟨⟨(server.hasKey_iff request).1 hkey, ⟨id, number, found, hid, hnumber, hfound⟩,
        ⟨hform, parameters, batch, hparameters, hbatch⟩⟩, hconnected⟩
  · rintro ⟨hadmits, hconnected⟩
    obtain ⟨id, number, found, hid, hnumber, hfound⟩ := hadmits.target
    obtain ⟨hform, parameters, batch, hparameters, hbatch⟩ := hadmits.batch
    refine ⟨id, number, hid, hnumber, hform, parameters, hparameters, ?_⟩
    rw [if_pos ((server.hasKey_iff request).2 hadmits.key), says_content, says_applyEdits]
    exact ⟨found, batch, hfound, hbatch, hconnected⟩

/-- A request that posts edits to a layer says something exactly if it is let through and there is a
connection. -/
theorem exchanges_ne_nil_iff_of_postsEdits {service layer : String}
    (h : PostsEdits request service layer) :
    ((server.respond request).run responder state).exchanges ≠ [] ↔
      Admits server request service layer ∧ (responder.connect state).1 = true := by
  have hserves : Endpoint.edits.serves request.method = true := decide_eq_true h.method
  rw [server.exchanges_respond request responder state (Route.ofPath?_of_edits h.path) hserves]
  exact server.says_serve_edits request responder state h.method

/-- Who may write. A command that writes is sent only for a request that posts edits to a layer and
has the key, if the service has one. Such a request says something exactly if it is let through and
there is a connection, and every other request only reads. -/
theorem respond_guarded (server : Server) (request : Request) (responder : Responder σ) (state : σ) :
    let exchanges := ((server.respond request).run responder state).exchanges
    (∀ exchange ∈ exchanges, exchange.1.Writes →
        (∃ service layer, PostsEdits request service layer) ∧
          ∀ key, server.settings.apiKey = some key →
            request.firstHeader? "x-api-key" = some key) ∧
      (∀ service layer, PostsEdits request service layer →
        (exchanges ≠ [] ↔ Admits server request service layer ∧ (responder.connect state).1 = true)) ∧
      ((∀ service layer, ¬PostsEdits request service layer) →
        ∀ exchange ∈ exchanges, exchange.1.Reads) := by
  intro exchanges
  refine ⟨?_, fun service layer => server.exchanges_ne_nil_iff_of_postsEdits request responder state,
    server.reads_of_not_postsEdits request responder state⟩
  intro exchange hexchange hwrites
  by_cases hposts : ∃ service layer, PostsEdits request service layer
  · refine ⟨hposts, ?_⟩
    obtain ⟨service, layer, hposts⟩ := hposts
    have hsaid : exchanges ≠ [] := List.ne_nil_of_mem hexchange
    obtain ⟨hadmits, -⟩ :=
      (server.exchanges_ne_nil_iff_of_postsEdits request responder state hposts).1 hsaid
    intro key hkey
    exact (hadmits.key key hkey).1
  · rw [not_exists] at hposts
    have hreads := server.reads_of_not_postsEdits request responder state
      (fun service layer h => hposts service ⟨layer, h⟩) exchange hexchange
    exact absurd hwrites hreads.not_writes

/-- A service with one layer, whose features are changed only with a key. -/
def guardedWells : Server where
  settings := { apiKey := some "secret" }
  registry := ⟨[{
    id := "water"
    layers := [{
      id := 0, name := "Wells", table := "wells", displayField := "name", geometryField := "shape"
      objectIdField := "db_id", kind := .point }] }], by decide⟩

/-- A request to remove a well. -/
def removeWell (headers : List (String × String)) : Request where
  method := .post
  path := "/rest/services/water/FeatureServer/0/applyEdits"
  headers := ("Content-Type", "application/x-www-form-urlencoded") :: headers
  body := "deletes=7"

/-- A database whose tables have one column and whose statements change one row. -/
def obliging : Responder Unit where
  connect _ := (true, ())
  reply _ _ := (.ok { rows := [[.text "db_id", .text "NO", .text "bigint"]], affected := 1 }, ())

/-- How the statements start that are sent for a request. -/
def verbs (request : Request) : List String :=
  ((guardedWells.respond request).run obliging ()).statements.map fun statement =>
    String.ofList (statement.sql.toList.takeWhile (· != ' '))

example : verbs (removeWell [("X-Api-Key", "secret")]) = ["SELECT", "DELETE"] := by decide +kernel

-- Only the first header counts.
example : verbs (removeWell [("X-Api-Key", "Secret"), ("X-Api-Key", "secret")]) = [] := by
  decide +kernel

end Server

end GeoLayers
