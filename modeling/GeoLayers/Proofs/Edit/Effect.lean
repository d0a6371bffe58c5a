import GeoLayers.Proofs.Edit.Atomicity

/-!
What an edit that succeeds has done to the row it is about. A removal that succeeds was told of a row
that is gone. A change is not asked for what it has done: it succeeds as soon as its statements are
answered, also where there is nothing to change and where the layer has no row with the object id.
-/

namespace GeoLayers.Edit

open Database
open Work (Enclosed)

variable {σ : Type} {layer : Layer} {catalog : Catalog} {feature : Feature} {id : Int}
  {exchanges : List (Command × Reply)}

/-- The edits of a feature that the layer is supposed to have. -/
inductive Revision where
  | update (feature : Feature)
  | remove (id : Int)

namespace Revision

/-- The work of an edit. -/
def work (layer : Layer) (catalog : Catalog) : Revision → Work Int
  | .update feature => updateFeature layer catalog feature
  | .remove id => deleteFeature layer id

/-- Whether an edit has anything to do: a removal always, a change if it gives an attribute other
than the object id or a geometry. -/
def HasWork (layer : Layer) : Revision → Prop
  | .update feature => changed layer feature.attributes ≠ [] ∨ feature.geometry.isSome
  | .remove _ => True

end Revision

/-- A statement was carried out that is restricted to the row with an object id, and the database
has told of a row that it changed or removed. -/
def Effective (layer : Layer) (id : Int) (exchanges : List (Command × Reply)) : Prop :=
  ∃ statement columns answer, (.run statement columns, .ok answer) ∈ exchanges ∧
    Restricted layer id statement ∧ 0 < answer.affected

/-- The database tells of as many rows as the layer's table holds with the object id that a statement
is restricted to. -/
def Truthful (layer : Layer) (held : Int → Nat) (exchanges : List (Command × Reply)) : Prop :=
  ∀ statement columns answer, (.run statement columns, .ok answer) ∈ exchanges →
    ∀ id, Restricted layer id statement → answer.affected = held id

/-- What can be said of the exchanges of an edit that succeeds with an object id. -/
structure Accounted (layer : Layer) (revision : Revision) (id : Int)
    (exchanges : List (Command × Reply)) : Prop where
  /-- All its statements are restricted to the row with the object id and were carried out. -/
  restricted : ∀ statement columns reply, (.run statement columns, reply) ∈ exchanges →
    Restricted layer id statement ∧ ∃ answer, reply = .ok answer
  /-- A removal is of this object id and was told of a row. -/
  removal : ∀ removed, revision = .remove removed → removed = id ∧ Effective layer id exchanges
  /-- If the database tells what its table holds, the edit has done something exactly if it had
  anything to do and there is a row with the object id. -/
  effective_iff : ∀ held, Truthful layer held exchanges →
    (Effective layer id exchanges ↔ revision.HasWork layer ∧ 0 < held id)

theorem geometryStatements_eq_nil_iff {statements : List Statement}
    (h : geometryStatements layer feature id = .ok statements) :
    statements = [] ↔ feature.geometry = none := by
  unfold geometryStatements at h
  cases hfeature : feature.geometry with
  | none =>
      rw [hfeature] at h
      obtain rfl := Except.ok.inj h
      simp
  | some geometry =>
      simp only [hfeature] at h
      cases hgeometry : geometryStatement layer geometry id with
      | error e =>
          rw [hgeometry] at h
          cases h
      | ok statement =>
          rw [hgeometry] at h
          obtain rfl := Except.ok.inj h
          simp

/-- A change has something to do exactly if it has a statement to send. -/
theorem hasWork_update_iff {update : Option Statement} {geometry : List Statement}
    (hupdate : updateStatement layer catalog feature.attributes = .ok (id, update))
    (hgeometry : geometryStatements layer feature id = .ok geometry) :
    (Revision.update feature).HasWork layer ↔ update.toList ++ geometry ≠ [] := by
  have hattributes := (of_updateStatement hupdate).1
  have hnone := geometryStatements_eq_nil_iff hgeometry
  rw [Revision.HasWork, ne_eq, ne_eq, List.append_eq_nil_iff, not_and_or, Option.toList_eq_nil_iff,
    ← hattributes, hnone, Option.isSome_iff_ne_none]

/-- A command inside a transaction is neither its start nor its end. -/
theorem mem_of_enclosed {inner : List (Command × Reply)} {statement : Statement}
    {columns : List ColumnType} {reply : Reply} (h : Enclosed .commit inner exchanges) :
    (.run statement columns, reply) ∈ exchanges ↔ (.run statement columns, reply) ∈ inner := by
  obtain ⟨opened, closed, rfl⟩ := h
  simp

/-- Statements that are all about the row with an object id have done something exactly if there is
one of them and the row is there. -/
theorem effective_iff_of_restricted {held : Int → Nat} (htruthful : Truthful layer held exchanges)
    (hrestricted : ∀ statement columns reply, (.run statement columns, reply) ∈ exchanges →
      Restricted layer id statement ∧ ∃ answer, reply = .ok answer) :
    Effective layer id exchanges ↔
      (∃ statement columns reply, (.run statement columns, reply) ∈ exchanges) ∧ 0 < held id := by
  constructor
  · rintro ⟨statement, columns, answer, hmem, hrow, haffected⟩
    exact ⟨⟨statement, columns, _, hmem⟩, htruthful _ _ _ hmem id hrow ▸ haffected⟩
  · rintro ⟨⟨statement, columns, reply, hmem⟩, hheld⟩
    obtain ⟨hrow, answer, rfl⟩ := hrestricted _ _ _ hmem
    exact ⟨statement, columns, answer, hmem, hrow, htruthful _ _ _ hmem id hrow ▸ hheld⟩

theorem accounted_update (h : (updateFeature layer catalog feature).Trace exchanges (.ok id)) :
    Accounted layer (.update feature) id exchanges := by
  obtain ⟨inner, ⟨update, geometry, hupdate, hgeometry, hpicks, hall⟩, henclosed⟩ :=
    done_of_updateFeature h
  have hrestricted : ∀ statement columns reply, (.run statement columns, reply) ∈ exchanges →
      Restricted layer id statement ∧ ∃ answer, reply = .ok answer := by
    intro statement columns reply hmem
    obtain ⟨sent, hsent, answer, hexchange⟩ :=
      exists_of_mem_answered hall ((mem_of_enclosed henclosed).1 hmem)
    obtain ⟨⟨rfl, rfl⟩, rfl⟩ : (statement = sent ∧ columns = []) ∧ reply = .ok answer := by
      simpa using hexchange
    exact ⟨.inl (hpicks statement hsent), answer, rfl⟩
  refine ⟨hrestricted, nofun, fun held htruthful => ?_⟩
  rw [effective_iff_of_restricted htruthful hrestricted, hasWork_update_iff hupdate hgeometry]
  refine and_congr_left fun _ => ⟨?_, ?_⟩
  · rintro ⟨statement, columns, reply, hmem⟩ hnil
    rw [hnil] at hall
    obtain ⟨_, hsent, -⟩ := exists_of_mem_answered hall ((mem_of_enclosed henclosed).1 hmem)
    cases hsent
  · intro hne
    obtain ⟨statement, statements, hstatements⟩ := List.exists_cons_of_ne_nil hne
    rw [hstatements] at hall
    cases hall with
    | cons hfirst _ =>
        obtain ⟨answer, rfl⟩ := hfirst
        exact ⟨statement, [], .ok answer, (mem_of_enclosed henclosed).2 List.mem_cons_self⟩

/-- A removal that succeeds is one statement, which was told of a row. -/
theorem trace_deleteFeature_ok {removed : Int}
    (h : (deleteFeature layer removed).Trace exchanges (.ok id)) :
    removed = id ∧ ∃ answer, 0 < answer.affected ∧
      exchanges = [(.run (deleteStatement layer id) [], .ok answer)] := by
  rcases Work.trace_bind h with ⟨e, -, hnone⟩ | ⟨answer, said, last, hrun, hrest, rfl⟩
  · cases hnone
  rcases Work.trace_runPlain hrun with ⟨_, rfl, hanswer⟩ | ⟨_, -, hnone⟩
  case inr => cases hnone
  obtain rfl := Except.ok.inj hanswer
  dsimp only at hrest
  split at hrest
  case isTrue =>
    obtain ⟨-, hnone⟩ := Work.trace_throw hrest
    cases hnone
  case isFalse haffected =>
    obtain ⟨rfl, hid⟩ := Work.trace_pure hrest
    obtain rfl := Except.ok.inj hid
    exact ⟨rfl, answer, Nat.pos_of_ne_zero haffected, rfl⟩

theorem accounted_remove {removed : Int}
    (h : (deleteFeature layer removed).Trace exchanges (.ok id)) :
    Accounted layer (.remove removed) id exchanges := by
  obtain ⟨rfl, answer, haffected, hexchanges⟩ := trace_deleteFeature_ok h
  have hmem : (Command.run (deleteStatement layer removed) [], .ok answer) ∈ exchanges := by
    rw [hexchanges]
    exact List.mem_cons_self
  have hrestricted : ∀ statement columns reply, (.run statement columns, reply) ∈ exchanges →
      Restricted layer removed statement ∧ ∃ answer, reply = .ok answer := by
    intro statement columns reply hsaid
    rw [hexchanges] at hsaid
    obtain ⟨⟨rfl, rfl⟩, rfl⟩ : (statement = deleteStatement layer removed ∧ columns = []) ∧
        reply = .ok answer := by simpa using hsaid
    exact ⟨.inr picks_deleteStatement, answer, rfl⟩
  refine ⟨hrestricted, ?_, fun held htruthful => ?_⟩
  · rintro _ ⟨⟩
    exact ⟨rfl, _, _, _, hmem, .inr picks_deleteStatement, haffected⟩
  · rw [effective_iff_of_restricted htruthful hrestricted]
    exact and_congr_left fun _ => iff_of_true ⟨_, _, _, hmem⟩ trivial

/-- An edit that succeeds with an object id has sent statements about its row only. A removal has
removed it; a change has done something exactly if it had anything to do and the row is there. -/
theorem success_accounted (revision : Revision) (responder : Responder σ) (state : σ)
    (h : (Session.run responder (ExceptT.run (revision.work layer catalog)) state).value = .ok id) :
    Accounted layer revision id
      (Session.run responder (ExceptT.run (revision.work layer catalog)) state).exchanges := by
  have htrace := Work.trace_run responder (revision.work layer catalog) state
  rw [h] at htrace
  cases revision with
  | update feature => exact accounted_update htrace
  | remove removed => exact accounted_remove htrace

/-- A new day for the well 99. -/
def redrilled : Feature where
  attributes := .ofList [("db_id", .integer 99), ("drilled", .null)]

/-- The well is changed by a request whose transaction tells of one row. -/
theorem success_accounted_redrilled :
    let record := Session.run scripted
      (ExceptT.run ((Revision.update redrilled).work drilledWells drilledCatalog))
      [.ok {}, .ok { affected := 1 }]
    record.value = .ok 99 ∧ Accounted drilledWells (.update redrilled) 99 record.exchanges := by
  intro record
  have hok : record.value = .ok 99 := rfl
  exact ⟨hok, success_accounted (.update redrilled) scripted _ hok⟩

/-- Whether an exchange tells of no row that was changed. -/
def tellsOfNoRow : Command × Reply → Bool
  | (_, .ok answer) => answer.affected == 0
  | (_, .error _) => true

theorem not_effective_of_all (h : exchanges.all tellsOfNoRow = true) :
    ¬ Effective layer id exchanges := by
  rintro ⟨statement, columns, answer, hmem, -, haffected⟩
  have hnone := List.all_eq_true.1 h _ hmem
  rw [tellsOfNoRow, beq_iff_eq] at hnone
  omega

/-- There is no well 99. Its change succeeds all the same and is told as a success, and so does a
change that changes nothing. -/
theorem missing_row_changed :
    let unasked := Session.run scripted (ExceptT.run (updateFeature drilledWells drilledCatalog
      { attributes := .ofList [("db_id", .integer 99)] })) []
    let record := Session.run scripted
      (ExceptT.run (updateFeature drilledWells drilledCatalog redrilled)) []
    let applied := Session.run scripted
      (ExceptT.run (apply drilledWells drilledCatalog { updates := [redrilled] })) []
    (unasked.value = .ok 99 ∧ ¬ Effective drilledWells 99 unasked.exchanges) ∧
      (record.value = .ok 99 ∧ Truthful drilledWells (fun _ => 0) record.exchanges ∧
        ¬ Effective drilledWells 99 record.exchanges) ∧
      (applied.value.toOption.map Results.updates = some [.ok 99] ∧
        ¬ Effective drilledWells 99 applied.exchanges) := by
  intro unasked record applied
  have hnone : record.exchanges.all tellsOfNoRow = true := by decide +kernel
  refine ⟨⟨rfl, not_effective_of_all (by decide +kernel)⟩,
    ⟨rfl, ?_, not_effective_of_all hnone⟩, rfl, not_effective_of_all (by decide +kernel)⟩
  intro statement columns answer hmem id _
  have haffected := List.all_eq_true.1 hnone _ hmem
  rwa [tellsOfNoRow, beq_iff_eq] at haffected

end GeoLayers.Edit
