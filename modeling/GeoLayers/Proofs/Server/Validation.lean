import GeoLayers.Proofs.Catalog.Questions
import GeoLayers.Proofs.Database.Permission
import GeoLayers.Server.Basic

/-!
Validation before execution. A query says nothing to the database until its layer is found, its
parameters are read and there is a connection. Then the columns of the layer are asked for, and one
statement more is sent exactly if these are heard and the request passes all checks.
-/

namespace GeoLayers

open Database Catalog

variable {σ : Type} {exchanges : List (Command × Reply)}

/-- Whether an error tells of the database or of what it answered. -/
def Error.OfAnswer : Error → Prop
  | .query _ | .geometry _ | .internal => True
  | _ => False

/-- Whether a result that is an error is one that tells of the database or of what it answered. -/
def FailsOnAnswer {α : Type} : Except Error α → Prop
  | .ok _ => True
  | .error e => e.OfAnswer

/-- The codes of errors that refuse the names or the condition of a query. -/
def refusalCodes : List String := ["INVALID_SQL", "INVALID_FIELDS", "RELATED_FIELDS"]

theorem Error.OfAnswer.code_notMem {e : Error} (h : e.OfAnswer) : e.code ∉ refusalCodes := by
  cases e with
  | query fault =>
      rw [code]
      cases fault.kind <;> decide
  | geometry fault => exact (by decide : "GEOMETRY_FORMAT" ∉ refusalCodes)
  | internal => decide
  | _ => cases h

/-- The query that parameters ask for, if they can be read. A table holds features. -/
def QueryParameters.request (settings : Settings) (parameters : QueryParameters) :
    Except Error QueryRequest :=
  (parameters.toRequest settings).map fun request =>
    if parameters.wantsCsv then request.forTable else request

/-- What holds of a query before anything is said for it: its layer is there, its parameters can be
read and there is a connection. -/
structure Opens (server : Server) (service : String) (id : Int) (parameters : QueryParameters)
    (connected : Bool) (layer : Layer) (request : QueryRequest) : Prop where
  layer : ∃ owner, server.registry.layer service id = .ok (owner, layer)
  request : parameters.request server.settings = .ok request
  connected : connected = true

/-- How a query goes: what is said for it, and what it ends with. -/
inductive Queried (server : Server) (service : String) (id : Int) (parameters : QueryParameters)
    (connected : Bool) : List (Command × Reply) → Except Error QueryAnswer → Prop where
  | unknown {e : Error} (hlayer : server.registry.layer service id = .error e) :
      Queried server service id parameters connected [] (.error e)
  | malformed {owner : Service} {layer : Layer} {e : Error}
      (hlayer : server.registry.layer service id = .ok (owner, layer))
      (hrequest : parameters.request server.settings = .error e) :
      Queried server service id parameters connected [] (.error e)
  | unconnected {owner : Service} {layer : Layer} {request : QueryRequest}
      (hlayer : server.registry.layer service id = .ok (owner, layer))
      (hrequest : parameters.request server.settings = .ok request)
      (hconnected : connected = false) :
      Queried server service id parameters connected [] (.error .internal)
  | unfounded {layer : Layer} {request : QueryRequest} {lookups : List (Command × Reply)} {e : Error}
      (hopens : Opens server service id parameters connected layer request)
      (hlookups : LookedUp layer lookups (.error e)) :
      Queried server service id parameters connected lookups (.error e)
  | refused {layer : Layer} {request : QueryRequest} {lookups : List (Command × Reply)}
      {catalog : Catalog} {e : Error}
      (hopens : Opens server service id parameters connected layer request)
      (hlookups : LookedUp layer lookups (.ok catalog))
      (hcompile : compile layer catalog request = .error e) :
      Queried server service id parameters connected lookups (.error e)
  | answered {layer : Layer} {request : QueryRequest} {lookups : List (Command × Reply)}
      {catalog : Catalog} {statement : Statement} {reply : Reply}
      {result : Except Error QueryAnswer}
      (hopens : Opens server service id parameters connected layer request)
      (hlookups : LookedUp layer lookups (.ok catalog))
      (hcompile : compile layer catalog request = .ok statement)
      (hresult : FailsOnAnswer result) :
      Queried server service id parameters connected
        (lookups ++ [(.run ⟨"SELECT to_jsonb(q) AS row FROM (" ++ statement.sql ++ ") AS q",
          statement.binds⟩ [.json], reply)]) result

/-- The rows of a statement are asked for once, and an error tells of the answer. -/
theorem trace_loadRows {statement : Statement} {result : Except Error (List Attributes)}
    (h : (loadRows statement).Trace exchanges result) :
    ∃ reply, exchanges = [(.run statement.asJsonRows [.json], reply)] ∧ FailsOnAnswer result := by
  rcases Work.trace_bind h with ⟨e, hrun, rfl⟩ | ⟨answer, before, after, hrun, hrest, rfl⟩
  · rcases Work.trace_runStatement hrun with ⟨answer, -, hnone⟩ | ⟨report, rfl, hreport⟩
    · cases hnone
    · cases hreport
      exact ⟨.error report, rfl, trivial⟩
  rcases Work.trace_runStatement hrun with ⟨answer', rfl, hanswer⟩ | ⟨report, -, hnone⟩
  · obtain rfl := Except.ok.inj hanswer
    exists .ok answer
    rcases Work.trace_bind hrest with ⟨e, hread, rfl⟩ | ⟨values, middle, last, hread, hlast, rfl⟩
    · obtain ⟨rfl, ⟨_, -, hnone⟩ | ⟨-, herror⟩⟩ := Work.trace_readRows hread
      · cases hnone
      · cases herror
        exact ⟨rfl, trivial⟩
    · obtain ⟨rfl, -⟩ := Work.trace_readRows hread
      obtain ⟨rfl, rfl⟩ := Work.trace_pure hlast
      exact ⟨rfl, trivial⟩
  · cases hnone

/-- A page is asked for by one statement, if the request is accepted. -/
theorem trace_load {layer : Layer} {catalog : Catalog} {request : QueryRequest}
    {result : Except Error Page} (h : (Page.load layer catalog request).Trace exchanges result) :
    (∃ e, compile layer catalog request = .error e ∧ exchanges = [] ∧ result = .error e) ∨
      ∃ statement reply, compile layer catalog request = .ok statement ∧
        exchanges = [(.run statement.asJsonRows [.json], reply)] ∧ FailsOnAnswer result := by
  rcases Work.trace_check h with hrefused | ⟨statement, hcompile, hrest⟩
  · exact .inl hrefused
  · apply Or.inr
    rcases Work.trace_bind hrest with ⟨e, hload, rfl⟩ | ⟨rows, before, after, hload, hlast, rfl⟩
    · obtain ⟨reply, rfl, herror⟩ := trace_loadRows hload
      exact ⟨statement, reply, hcompile, rfl, herror⟩
    · obtain ⟨reply, rfl, -⟩ := trace_loadRows hload
      obtain ⟨rfl, rfl⟩ := Work.trace_pure hlast
      exact ⟨statement, reply, hcompile, rfl, trivial⟩

namespace FailsOnAnswer

variable {α β : Type}

theorem bind {result : Except Error α} {f : α → Except Error β} (h : FailsOnAnswer result)
    (hf : ∀ value, FailsOnAnswer (f value)) : FailsOnAnswer (result >>= f) := by
  cases result with
  | ok value => exact hf value
  | error e => exact h

theorem map {result : Except Error α} (f : α → β) (h : FailsOnAnswer result) :
    FailsOnAnswer (result.map f) := by
  cases result with
  | ok value => trivial
  | error e => exact h

theorem foldlM {f : β → α → Except Error β} (hf : ∀ state item, FailsOnAnswer (f state item))
    (items : List α) (state : β) : FailsOnAnswer (items.foldlM f state) := by
  induction items generalizing state with
  | nil => trivial
  | cons item items ih => exact (hf state item).bind ih

theorem mapM {f : α → Except Error β} (hf : ∀ item, FailsOnAnswer (f item)) (items : List α) :
    FailsOnAnswer (items.mapM f) := by
  induction items with
  | nil => trivial
  | cons item items ih =>
      rw [List.mapM_cons]
      exact (hf item).bind fun _ => ih.bind fun _ => trivial

end FailsOnAnswer

theorem failsOnAnswer_addRow (layer : Layer) (features : FeatureList) (row : Attributes) :
    FailsOnAnswer (FeatureList.addRow layer features row) := by
  have hgeometry : FailsOnAnswer ((geometryIn row).mapError Error.geometry) := by
    cases geometryIn row <;> trivial
  exact hgeometry.bind fun _ => trivial

theorem failsOnAnswer_assemble (layer : Layer) (rows : List Attributes) :
    FailsOnAnswer (assemble layer rows) :=
  (FailsOnAnswer.foldlM (failsOnAnswer_addRow layer) rows []).bind fun _ => trivial

/-- Rows that cannot be told as an answer are a fault of the geometries in them. -/
theorem failsOnAnswer_ofPage (layer : Layer) (catalog : Catalog) (reference : SpatialReference)
    (request : QueryRequest) (page : Page) :
    FailsOnAnswer (QueryAnswer.ofPage layer catalog reference request page) := by
  unfold QueryAnswer.ofPage
  split
  · trivial
  · split
    · trivial
    · apply FailsOnAnswer.map
      exact (failsOnAnswer_assemble layer page.rows).bind fun _ => trivial

theorem failsOnAnswer_rowText (columns : Csv.Columns) (row : Attributes) :
    FailsOnAnswer (Csv.rowText columns row) := by
  unfold Csv.rowText
  split
  · split <;> trivial
  · trivial

theorem failsOnAnswer_csvOfPage (layer : Layer) (request : QueryRequest) (page : Page) :
    FailsOnAnswer (QueryAnswer.csvOfPage layer request page) := by
  apply FailsOnAnswer.map
  unfold Csv.table
  split
  · trivial
  · exact (FailsOnAnswer.mapM (failsOnAnswer_rowText _) page.rows).bind fun _ => trivial

variable {server : Server} {service : String} {id : Int} {parameters : QueryParameters}
  {connected : Bool} {result : Except Error QueryAnswer}

theorem Opens.unique {layer layer' : Layer} {request request' : QueryRequest}
    (h : Opens server service id parameters connected layer request)
    (h' : Opens server service id parameters connected layer' request') :
    layer = layer' ∧ request = request' := by
  obtain ⟨owner, hlayer⟩ := h.layer
  obtain ⟨owner', hlayer'⟩ := h'.layer
  have hfound := Except.ok.inj (hlayer.symm.trans hlayer')
  exact ⟨congrArg Prod.snd hfound, Except.ok.inj (h.request.symm.trans h'.request)⟩

/-- Whether a command asks for the columns of a table of a layer. -/
def Layer.AskedBy (layer : Layer) (command : Command) : Prop :=
  ∃ table ∈ layer.table :: layer.relatedTables, command = question table

/-- The statement of an answer is no question for columns, whatever it says. -/
theorem asJsonRows_ne_question (statement : Statement) (table : String) :
    Command.run statement.asJsonRows [.json] ≠ question table := by
  intro h
  cases (Command.run.inj h).2

namespace Queried

/-- All that is said for a query whose names or condition are refused are questions for the columns
of its layer. -/
theorem askedBy_of_refusal {e : Error}
    (h : Queried server service id parameters connected exchanges (.error e))
    (hcode : e.code ∈ refusalCodes) :
    ∀ exchange ∈ exchanges, ∃ owner layer, server.registry.layer service id = .ok (owner, layer) ∧
      layer.AskedBy exchange.1 := by
  have hasked {layer : Layer} {request : QueryRequest} {lookups : List (Command × Reply)}
      {found : Except Error Catalog}
      (hopens : Opens server service id parameters connected layer request)
      (hlookups : LookedUp layer lookups found) :
      ∀ exchange ∈ lookups, ∃ owner layer,
        server.registry.layer service id = .ok (owner, layer) ∧ layer.AskedBy exchange.1 := by
    intro exchange hexchange
    obtain ⟨owner, hlayer⟩ := hopens.layer
    exact ⟨owner, layer, hlayer, hlookups.question_of_mem exchange hexchange⟩
  cases h with
  | unknown hlayer => simp
  | malformed hlayer hrequest => simp
  | unconnected hlayer hrequest hconnected => simp
  | unfounded hopens hlookups => exact hasked hopens hlookups
  | refused hopens hlookups hcompile => exact hasked hopens hlookups
  | answered hopens hlookups hcompile hresult => exact absurd hcode hresult.code_notMem

/-- Something other than a question is sent exactly if the catalog is found and the request is
accepted. -/
theorem exists_not_question_iff
    (h : Queried server service id parameters connected exchanges result) :
    (∃ exchange ∈ exchanges, ∀ table, exchange.1 ≠ question table) ↔
      ∃ layer request lookups catalog statement,
        Opens server service id parameters connected layer request ∧ lookups <+: exchanges ∧
          LookedUp layer lookups (.ok catalog) ∧
          compile layer catalog request = .ok statement := by
  constructor
  · rintro ⟨exchange, hexchange, hother⟩
    have hlookups {layer : Layer} {found : Except Error Catalog}
        (hlookups : LookedUp layer exchanges found) : False := by
      obtain ⟨table, -, hquestion⟩ := hlookups.question_of_mem exchange hexchange
      exact hother table hquestion
    cases h with
    | unknown hlayer => cases hexchange
    | malformed hlayer hrequest => cases hexchange
    | unconnected hlayer hrequest hconnected => cases hexchange
    | unfounded hopens hfound => exact (hlookups hfound).elim
    | refused hopens hfound hcompile => exact (hlookups hfound).elim
    | answered hopens hfound hcompile hresult =>
        exact ⟨_, _, _, _, _, hopens, List.prefix_append _ _, hfound, hcompile⟩
  · rintro ⟨layer, request, lookups, catalog, statement, hopens, hstart, hfound, hcompile⟩
    cases h with
    | unknown hlayer =>
        obtain ⟨owner, hlayer'⟩ := hopens.layer
        rw [hlayer] at hlayer'
        cases hlayer'
    | malformed hlayer hrequest => cases hrequest.symm.trans hopens.request
    | unconnected hlayer hrequest hconnected => cases hconnected.symm.trans hopens.connected
    | unfounded hopens' hfound' =>
        obtain ⟨rfl, -⟩ := hopens.unique hopens'
        cases hfound.unique hfound' hstart
    | refused hopens' hfound' hcompile' =>
        obtain ⟨rfl, rfl⟩ := hopens.unique hopens'
        cases hfound.unique hfound' hstart
        cases hcompile.symm.trans hcompile'
    | answered hopens' hfound' hcompile' hresult =>
        exact ⟨_, List.mem_append_right _ List.mem_cons_self, asJsonRows_ne_question _⟩

end Queried

/-- Looking up the columns of a layer begins with a connection. -/
theorem Server.openLayer_bind {α : Type} (layer : Layer) (f : Catalog → Work α) :
    openLayer layer >>= f = Work.checkout >>= fun _ => lookup layer >>= f := by
  apply congrArg Session.connect
  funext connected
  cases connected <;> rfl

/-- How a page is told: without the database, and with no error but one of the answered rows. -/
theorem trace_ofPage {layer : Layer} {catalog : Catalog} {reference : SpatialReference}
    {request : QueryRequest} {page : Page} {csv : Bool}
    (h : (if csv then liftM (QueryAnswer.csvOfPage layer request page)
      else liftM (QueryAnswer.ofPage layer catalog reference request page) :
        Work QueryAnswer).Trace exchanges result) :
    exchanges = [] ∧ FailsOnAnswer result := by
  have hlift {check : Except Error QueryAnswer} (hcheck : FailsOnAnswer check)
      (h : (liftM check : Work QueryAnswer).Trace exchanges result) :
      exchanges = [] ∧ FailsOnAnswer result := by
    cases check with
    | ok answer =>
        obtain ⟨rfl, rfl⟩ := Work.trace_pure h
        exact ⟨rfl, trivial⟩
    | error e =>
        obtain ⟨rfl, rfl⟩ := Work.trace_throw h
        exact ⟨rfl, hcheck⟩
  cases csv with
  | true => exact hlift (failsOnAnswer_csvOfPage layer request page) h
  | false => exact hlift (failsOnAnswer_ofPage layer catalog reference request page) h

/-- How a query goes that has a connection. -/
theorem queried_of_trace (owner : Service) {layer : Layer} {request : QueryRequest}
    (hopens : Opens server service id parameters connected layer request)
    (h : (do
      let catalog ← lookup layer
      let page ← Page.load layer catalog request
      if parameters.wantsCsv then QueryAnswer.csvOfPage layer request page
      else QueryAnswer.ofPage layer catalog owner.reference request page :
        Work QueryAnswer).Trace exchanges result) :
    Queried server service id parameters connected exchanges result := by
  rcases Work.trace_bind h with
    ⟨e, hlookup, rfl⟩ | ⟨catalog, lookups, after, hlookup, hrest, rfl⟩
  · exact .unfounded hopens (trace_lookup hlookup)
  have hfound := trace_lookup hlookup
  rcases Work.trace_bind hrest with ⟨e, hload, rfl⟩ | ⟨page, sent, last, hload, hlast, rfl⟩
  · rcases trace_load hload with ⟨e, hcompile, rfl, hresult⟩ | ⟨statement, reply, hcompile, rfl, hresult⟩
    · cases hresult
      rw [List.append_nil]
      exact .refused hopens hfound hcompile
    · exact .answered hopens hfound hcompile hresult
  · obtain ⟨rfl, hresult⟩ := trace_ofPage hlast
    rcases trace_load hload with ⟨e, -, -, hnone⟩ | ⟨statement, reply, hcompile, rfl, -⟩
    · cases hnone
    · exact .answered hopens hfound hcompile hresult

/-- What is said for a query is what its checks allow. -/
theorem Server.queried_run (server : Server) (service : String) (id : Int)
    (parameters : QueryParameters) (responder : Responder σ) (state : σ) :
    Queried server service id parameters (responder.connect state).1
      (Session.run responder (ExceptT.run (server.query service id parameters)) state).exchanges
      (Session.run responder (ExceptT.run (server.query service id parameters)) state).value := by
  unfold query
  rw [Work.run_check_bind]
  cases hlayer : server.registry.layer service id with
  | error e => exact .unknown hlayer
  | ok target =>
      obtain ⟨owner, layer⟩ := target
      dsimp only
      rw [Work.run_check_bind]
      cases hparameters : parameters.toRequest server.settings with
      | error e =>
          apply Queried.malformed hlayer
          rw [QueryParameters.request, hparameters]
          rfl
      | ok read =>
          have hrequest : parameters.request server.settings =
              .ok (if parameters.wantsCsv then read.forTable else read) := by
            rw [QueryParameters.request, hparameters]
            rfl
          dsimp only
          rw [openLayer_bind, Work.run_checkout_bind]
          split
          case isFalse hconnected =>
            exact .unconnected hlayer hrequest (Bool.eq_false_iff.2 hconnected)
          case isTrue hconnected =>
            apply queried_of_trace owner ⟨⟨owner, hlayer⟩, hrequest, hconnected⟩
            exact Work.trace_run responder _ _

/-- A query is checked before it is carried out: nothing is sent for it unless it opens, one
statement is sent besides the lookups exactly if they succeed and the request is accepted, and a
refused request has sent nothing but questions for columns. -/
theorem Server.query_validated (server : Server) (service : String) (id : Int)
    (parameters : QueryParameters) (responder : Responder σ) (state : σ) :
    let record := Session.run responder (ExceptT.run (server.query service id parameters)) state
    let connected := (responder.connect state).1
    Queried server service id parameters connected record.exchanges record.value ∧
      ((∃ exchange ∈ record.exchanges, ∀ table, exchange.1 ≠ question table) ↔
        ∃ layer request lookups catalog statement,
          Opens server service id parameters connected layer request ∧
            lookups <+: record.exchanges ∧ LookedUp layer lookups (.ok catalog) ∧
            compile layer catalog request = .ok statement) ∧
      ∀ e, record.value = .error e → e.code ∈ refusalCodes →
        ∀ exchange ∈ record.exchanges, ∃ owner layer,
          server.registry.layer service id = .ok (owner, layer) ∧ layer.AskedBy exchange.1 := by
  intro record connected
  have hqueried : Queried server service id parameters connected record.exchanges record.value :=
    server.queried_run service id parameters responder state
  refine ⟨hqueried, hqueried.exists_not_question_iff, ?_⟩
  intro e herror hcode
  rw [herror] at hqueried
  exact hqueried.askedBy_of_refusal hcode

end GeoLayers
