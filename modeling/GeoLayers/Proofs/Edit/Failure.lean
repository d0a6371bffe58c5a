import GeoLayers.Edit.Apply
import GeoLayers.Proofs.Database.Trace

/-!
What has been changed when a request for edits fails. The edits themselves never fail the request:
each keeps how it ended. What can fail it are the two questions for the times of the layer. Nothing
has been sent before the first one; but when the second one fails every edit has been carried out,
and what was committed stays.
-/

namespace GeoLayers.Edit

open Database

variable {σ : Type} {layer : Layer} {catalog : Catalog} {batch : Batch}
  {exchanges : List (Command × Reply)}

/-- The question for the first and the last time of a layer's rows. -/
def timeQuestion (layer : Layer) (field : String) : Command :=
  .run (layer.timeStatement field) [.bigInt, .bigInt]

/-- Exchanges without a commit and without a removal that was carried out. -/
def Untouched (layer : Layer) (exchanges : List (Command × Reply)) : Prop :=
  (∀ reply, (Command.commit, reply) ∉ exchanges) ∧
    ∀ id columns answer, (Command.run (deleteStatement layer id) columns, .ok answer) ∉ exchanges

/-- Exchanges in which all edits of a batch are carried out, one after the other. -/
def CarriedOut (layer : Layer) (catalog : Catalog) (batch : Batch)
    (exchanges : List (Command × Reply)) : Prop :=
  ∃ adds updates deletes added updated deleted,
    (outcomes (addFeature layer catalog) batch.adds).Trace added (.ok adds) ∧
      (outcomes (updateFeature layer catalog) batch.updates).Trace updated (.ok updates) ∧
      (outcomes (deleteFeature layer) batch.deletes).Trace deleted (.ok deletes) ∧
      exchanges = added ++ (updated ++ deleted)

/-- The question for the times is asked if there is a column with times, and fails only if the
database reports an error. -/
theorem trace_askTimeExtent {result : Except Error (Option Layer.TimeExtent)}
    (h : layer.askTimeExtent.Trace exchanges result) :
    (∃ times, result = .ok times ∧ ∀ field, layer.timeField? = some field →
        ∃ answer, exchanges = [(timeQuestion layer field, .ok answer)]) ∨
      ∃ field report, layer.timeField? = some field ∧
        exchanges = [(timeQuestion layer field, .error report)] ∧
        result = .error (.query (.ofMessage report.message)) := by
  unfold Layer.askTimeExtent at h
  cases hfield : layer.timeField? with
  | none =>
      rw [hfield] at h
      obtain ⟨rfl, rfl⟩ := Work.trace_pure h
      exact .inl ⟨none, rfl, by simp⟩
  | some field =>
      rw [hfield] at h
      rcases Work.trace_bind h with ⟨e, hask, rfl⟩ | ⟨answer, before, after, hask, hafter, rfl⟩
      · rcases Work.trace_runPlain hask with ⟨answer, -, hanswer⟩ | ⟨report, rfl, hreport⟩
        · cases hanswer
        · obtain rfl := Except.error.inj hreport
          exact .inr ⟨field, report, rfl, rfl, rfl⟩
      · obtain ⟨rfl, rfl⟩ := Work.trace_pure hafter
        rcases Work.trace_runPlain hask with ⟨answer', rfl, -⟩ | ⟨report, -, hreport⟩
        · refine .inl ⟨_, rfl, ?_⟩
          rintro _ ⟨⟩
          exact ⟨answer', by rw [List.append_nil]; rfl⟩
        · cases hreport

/-- Edits do not fail what comes after them: each ends with a result of its own. -/
theorem trace_outcomes {α : Type} {edit : α → Work Int} {items : List α}
    {result : Except Error (List Result)} (h : (outcomes edit items).Trace exchanges result) :
    ∃ results, result = .ok results := by
  induction items generalizing exchanges result with
  | nil =>
      obtain ⟨-, rfl⟩ := Work.trace_pure h
      exact ⟨[], rfl⟩
  | cons item items ih =>
      rcases Work.trace_bind h with ⟨e, hfirst, -⟩ | ⟨ended, _, after, -, hafter, -⟩
      · obtain ⟨ended, _, _, -, hended, -⟩ := Session.trace_bind hfirst
        cases hended
      · rcases Work.trace_bind hafter with ⟨e, hrest, -⟩ | ⟨results, _, _, -, hlast, -⟩
        · obtain ⟨results, hresults⟩ := ih hrest
          cases hresults
        · obtain ⟨-, rfl⟩ := Work.trace_pure hlast
          exact ⟨ended :: results, rfl⟩

/-- All edits are carried out before anything else can fail. -/
theorem trace_edits {β : Type} {rest : List Result → List Result → List Result → Work β}
    {result : Except Error β}
    (h : (do
      let adds ← outcomes (addFeature layer catalog) batch.adds
      let updates ← outcomes (updateFeature layer catalog) batch.updates
      let deletes ← outcomes (deleteFeature layer) batch.deletes
      rest adds updates deletes : Work β).Trace exchanges result) :
    ∃ adds updates deletes edits after, CarriedOut layer catalog batch edits ∧
      (rest adds updates deletes).Trace after result ∧ exchanges = edits ++ after := by
  rcases Work.trace_bind h with ⟨e, hadds, -⟩ | ⟨adds, added, _, hadds, hnext, rfl⟩
  · obtain ⟨_, hnone⟩ := trace_outcomes hadds
    cases hnone
  rcases Work.trace_bind hnext with ⟨e, hupdates, -⟩ | ⟨updates, updated, _, hupdates, hlast, rfl⟩
  · obtain ⟨_, hnone⟩ := trace_outcomes hupdates
    cases hnone
  rcases Work.trace_bind hlast with ⟨e, hdeletes, -⟩ | ⟨deletes, deleted, after, hdeletes, hrest, rfl⟩
  · obtain ⟨_, hnone⟩ := trace_outcomes hdeletes
    cases hnone
  refine ⟨adds, updates, deletes, added ++ (updated ++ deleted), after, ?_, hrest, ?_⟩
  · exact ⟨adds, updates, deletes, added, updated, deleted, hadds, hupdates, hdeletes, rfl⟩
  · simp only [List.append_assoc]

/-- The question for the times on its own changes nothing. -/
theorem untouched_timeQuestion (field : String) (report : Report) :
    Untouched layer [(timeQuestion layer field, .error report)] := by
  constructor
  · intro reply hmem
    cases List.mem_singleton.mp hmem
  · intro id columns answer hmem
    cases List.mem_singleton.mp hmem

/-- A request for edits fails only at a question for the times of the layer. If that is the first
one, it is all that was said and nothing has changed. If it is the second one, all edits of the batch
have been carried out before it, and what they have changed is not taken back. -/
theorem apply_error (responder : Responder σ) (state : σ) {e : Error}
    (h : (Session.run responder (ExceptT.run (apply layer catalog batch)) state).value = .error e) :
    let exchanges :=
      (Session.run responder (ExceptT.run (apply layer catalog batch)) state).exchanges
    ∃ field report, layer.timeField? = some field ∧ e = .query (.ofMessage report.message) ∧
      ((exchanges = [(timeQuestion layer field, .error report)] ∧ Untouched layer exchanges) ∨
        ∃ answer edits, CarriedOut layer catalog batch edits ∧
          exchanges = (timeQuestion layer field, .ok answer) ::
            (edits ++ [(timeQuestion layer field, .error report)])) := by
  intro exchanges
  have htrace : (apply layer catalog batch).Trace exchanges (.error e) := by
    have hrun := Work.trace_run responder (apply layer catalog batch) state
    rwa [h] at hrun
  clear_value exchanges
  rcases Work.trace_bind htrace with ⟨e', hfirst, he⟩ | ⟨times, first, _, hfirst, hrest, rfl⟩
  · obtain rfl := Except.error.inj he
    rcases trace_askTimeExtent hfirst with ⟨times, hnone, -⟩ | ⟨field, report, hfield, rfl, hreport⟩
    · cases hnone
    · obtain rfl := Except.error.inj hreport
      exact ⟨field, report, hfield, rfl, .inl ⟨rfl, untouched_timeQuestion field report⟩⟩
  · obtain ⟨adds, updates, deletes, edits, last, hedits, hlast, rfl⟩ := trace_edits hrest
    rcases Work.trace_bind hlast with ⟨e', hlast, he⟩ | ⟨_, _, _, -, hdone, -⟩
    · obtain rfl := Except.error.inj he
      rcases trace_askTimeExtent hlast with ⟨_, hnone, -⟩ | ⟨field, report, hfield, rfl, hreport⟩
      · cases hnone
      obtain rfl := Except.error.inj hreport
      -- The layer has a column with times, so the first question was asked too.
      rcases trace_askTimeExtent hfirst with ⟨_, -, hasked⟩ | ⟨_, _, -, -, hnone⟩
      · obtain ⟨answer, rfl⟩ := hasked field hfield
        exact ⟨field, report, hfield, rfl, .inr ⟨answer, edits, hedits, rfl⟩⟩
      · cases hnone
    · obtain ⟨-, hnone⟩ := Work.trace_pure hdone
      cases hnone

/-- Wells with the day on which they were drilled. -/
def drilledWells : Layer where
  id := 0
  name := "Wells"
  table := "db_wells"
  kind := .point
  timeInfo := some { startField := "drilled" }

def drilledCatalog : Catalog where
  fields := [.ofColumn "db_id" "integer" false, .ofColumn "drilled" "date" true]
  related := []

/-- Gives the replies of a list, one after the other. -/
def scripted : Responder (List Reply) where
  connect replies := (true, replies)
  reply _ replies :=
    match replies with
    | [] => (.ok {}, [])
    | reply :: replies => (reply, replies)

/-- The removal of one well, played with some replies. -/
def removalRecord (replies : List Reply) : Record (Except Error Results) (List Reply) :=
  Session.run scripted
    (ExceptT.run (apply drilledWells drilledCatalog { deletes := [1] })) replies

/-- A well is removed, and the request fails all the same: the question for the times fails after
the removal. -/
theorem removed_and_failed :
    let record := removalRecord
      [.ok { rows := [[.bigInt 1, .bigInt 2]] }, .ok { affected := 1 },
        .error { message := "canceling statement due to statement timeout" }]
    (∃ e, record.value = .error e) ∧
      (Command.run (deleteStatement drilledWells 1) [], .ok { affected := 1 }) ∈ record.exchanges ∧
      ¬ Untouched drilledWells record.exchanges := by
  intro record
  have hremoved : (Command.run (deleteStatement drilledWells 1) [], .ok { affected := 1 }) ∈
      record.exchanges := .tail _ (.head _)
  exact ⟨⟨_, rfl⟩, hremoved, fun huntouched => huntouched.2 1 [] { affected := 1 } hremoved⟩

/-- The first question fails: nothing else is said. -/
theorem apply_error_unasked :
    let e : Error := .query (.ofMessage "out of memory")
    let record := removalRecord [.error { message := "out of memory" }]
    record.value = .error e ∧
      ∃ field report, drilledWells.timeField? = some field ∧
        e = .query (.ofMessage report.message) ∧
        ((record.exchanges = [(timeQuestion drilledWells field, .error report)] ∧
            Untouched drilledWells record.exchanges) ∨
          ∃ answer edits, CarriedOut drilledWells drilledCatalog { deletes := [1] } edits ∧
            record.exchanges = (timeQuestion drilledWells field, .ok answer) ::
              (edits ++ [(timeQuestion drilledWells field, .error report)])) := by
  intro e record
  have hfailed : record.value = .error e := rfl
  exact ⟨hfailed, apply_error scripted [.error { message := "out of memory" }] hfailed⟩

end GeoLayers.Edit
