import GeoLayers.Proofs.Catalog.Questions

/-!
What is kept while a catalog is looked up. The columns of a table are kept as soon as they are told,
so no table is asked for twice, and what cannot be told is not kept. A database that replies alike to
the same question gives the same catalog, or the same error, as if nothing were kept and every table
were asked for whenever it is needed.
-/

namespace GeoLayers

open Database

namespace Database.Session

variable {α β γ σ : Type}

theorem bind_assoc (session : Session α) (f : α → Session β) (g : β → Session γ) :
    (session.bind f).bind g = session.bind fun value => (f value).bind g := by
  induction session with
  | done value => rfl
  | connect next ih => exact congrArg Session.connect (funext ih)
  | send command next ih => exact congrArg (Session.send command) (funext ih)

/-- A value that is changed at the end of a session changes nothing else. -/
theorem run_bind_done (responder : Responder σ) (session : Session α) (f : α → β) (state : σ) :
    (session.bind fun value => .done (f value)).run responder state =
      { value := f (session.run responder state).value
        state := (session.run responder state).state
        exchanges := (session.run responder state).exchanges } := by
  induction session generalizing state with
  | done value => rfl
  | connect next ih => exact ih _ _
  | send command next ih =>
      simp only [bind, run, ih]

/-- In a run the replies are those of the responder. -/
theorem reply_of_mem_exchanges {responder : Responder σ} {session : Session α} {state : σ}
    {exchange : Command × Reply} (h : exchange ∈ (session.run responder state).exchanges) :
    ∃ asked, exchange.2 = (responder.reply exchange.1 asked).1 := by
  induction session generalizing state with
  | done value => cases h
  | connect next ih => exact ih _ h
  | send command next ih =>
      rcases List.mem_cons.1 h with rfl | hrest
      · exact ⟨state, rfl⟩
      · exact ih _ hrest

end Database.Session

namespace Catalog

/-! ### Looking up with and without what is kept -/

/-- The columns of a table, which are asked for only if they are not kept, and what is kept then. -/
def columnsKept (kept : Known) (table : String) : Session (Except Error (List Field) × Known) :=
  match kept.find? table with
  | some columns => .done (.ok columns, kept)
  | none =>
    (ExceptT.run (askColumns table)).bind fun
      | .ok columns => .done (.ok columns, kept.insert table columns)
      | .error e => .done (.error e, kept)

/-- The columns of related tables, and what is kept then. -/
def relatedKept (kept : Known) :
    List Relation → Session (Except Error (List RelatedCatalog) × Known)
  | [] => .done (.ok [], kept)
  | relation :: relations =>
    (columnsKept kept relation.table).bind fun
      | (.error e, kept) => .done (.error e, kept)
      | (.ok columns, kept) =>
        (relatedKept kept relations).bind fun told =>
          .done (told.1.map (.ofColumns relation columns :: ·), told.2)

/-- The catalog of a layer, and what is kept then, also if there is no catalog. -/
def lookupKept (kept : Known) (layer : Layer) : Session (Except Error Catalog × Known) :=
  (columnsKept kept layer.table).bind fun
    | (.error e, kept) => .done (.error e, kept)
    | (.ok columns, kept) =>
      if columns.isEmpty then .done (.error (.missing (.table layer.table layer.name)), kept)
      else
        (relatedKept kept layer.relations).bind fun told =>
          .done (told.1.map (.ofColumns layer columns), told.2)

/-- The columns of related tables, every one of which is asked for. -/
def relatedAnew : List Relation → Work (List RelatedCatalog)
  | [] => pure []
  | relation :: relations => do
    let columns ← askColumns relation.table
    let related ← relatedAnew relations
    pure (.ofColumns relation columns :: related)

/-- The catalog of a layer, every table of which is asked for whenever it is needed. -/
def lookupAnew (layer : Layer) : Work Catalog := do
  let columns ← askColumns layer.table
  if columns.isEmpty then throw (.missing (.table layer.table layer.name))
  let related ← relatedAnew layer.relations
  pure (.ofColumns layer columns related)

theorem run_columnsOf (known : Known) (table : String) :
    ExceptT.run (columnsOf known table) =
      (columnsKept known table).bind fun told => .done (told.1.map (·, told.2)) := by
  unfold columnsOf columnsKept
  cases known.find? table with
  | some columns => rfl
  | none =>
      dsimp only
      rw [Session.bind_assoc]
      refine congrArg (Session.bind _) (funext fun told => ?_)
      cases told <;> rfl

theorem run_relatedOf (known : Known) (relations : List Relation) :
    ExceptT.run (relatedOf known relations) =
      (relatedKept known relations).bind fun told => .done told.1 := by
  induction relations generalizing known with
  | nil => rfl
  | cons relation relations ih =>
      unfold relatedOf relatedKept
      rw [Session.bind_assoc, ExceptT.run_bind, run_columnsOf]
      refine (Session.bind_assoc _ _ _).trans (congrArg (Session.bind _) (funext fun told => ?_))
      obtain ⟨e | columns, kept⟩ := told
      · rfl
      · change (ExceptT.run (relatedOf kept relations)).bind _ = _
        rw [ih]
        refine (Session.bind_assoc _ _ _).trans (.trans ?_ (Session.bind_assoc _ _ _).symm)
        refine congrArg (Session.bind _) (funext fun told => ?_)
        obtain ⟨e | related, kept⟩ := told <;> rfl

/-- A catalog is looked up from nothing that is kept, and what is kept then is dropped. -/
theorem run_lookup (layer : Layer) :
    ExceptT.run (lookup layer) = (lookupKept .empty layer).bind fun told => .done told.1 := by
  unfold lookup lookupKept
  rw [Session.bind_assoc, ExceptT.run_bind, run_columnsOf]
  refine (Session.bind_assoc _ _ _).trans (congrArg (Session.bind _) (funext fun told => ?_))
  obtain ⟨e | columns, kept⟩ := told
  · rfl
  · cases columns with
    | nil => rfl
    | cons column columns =>
        change (ExceptT.run (relatedOf kept layer.relations)).bind _ = _
        rw [run_relatedOf]
        refine (Session.bind_assoc _ _ _).trans (.trans ?_ (Session.bind_assoc _ _ _).symm)
        refine congrArg (Session.bind _) (funext fun told => ?_)
        obtain ⟨e | related, kept⟩ := told <;> rfl

/-! ### What is asked, and what is kept -/

/-- A database that replies alike whenever it is asked for the columns of one table. -/
def RepliesAlike {σ : Type} (responder : Responder σ) (replies : String → Reply) : Prop :=
  ∀ table state, (responder.reply (question table) state).1 = replies table

variable (replies : String → Reply)

/-- Exchanges in which the questions for columns have certain replies. -/
def Follows (exchanges : List (Command × Reply)) : Prop :=
  ∀ exchange ∈ exchanges, ∀ table, exchange.1 = question table → exchange.2 = replies table

/-- What is kept after some tables were asked for: the columns of those that were told. -/
def Keeps (kept : Known) (asked : List String) : Prop :=
  ∀ table columns,
    kept.find? table = some columns ↔ table ∈ asked ∧ told (replies table) = .ok columns

/-- The tables up to the first one at which to stop, and that one. -/
def upTo (stop : String → Bool) : List String → List String
  | [] => []
  | table :: tables => if stop table then [table] else table :: upTo stop tables

/-- Whether no columns are told of a table. -/
def untold (table : String) : Bool :=
  match told (replies table) with
  | .ok _ => false
  | .error _ => true

/-- Whether nothing is asked after a table: no columns are told of it, or it is the layer's own and
has none. -/
def endsLookup (layer : Layer) (table : String) : Bool :=
  match told (replies table) with
  | .ok columns => table == layer.table && columns.isEmpty
  | .error _ => true

/-- The tables that are asked for: the layer's own and those of its relations in the order in which
they are needed first, until a table ends the look-up. -/
def tablesAsked (layer : Layer) : List String :=
  upTo (endsLookup replies layer)
    (firstOccurrences (layer.table :: layer.relations.map (·.table)))

/-- What is told of the related tables. -/
def relatedTold (relations : List Relation) : Except Error (List RelatedCatalog) :=
  relations.mapM fun relation => (told (replies relation.table)).map (.ofColumns relation)

/-- The catalog that the replies tell. -/
def catalogTold (layer : Layer) : Except Error Catalog := do
  let columns ← told (replies layer.table)
  if columns.isEmpty then throw (.missing (.table layer.table layer.name))
  let related ← relatedTold replies layer.relations
  pure (.ofColumns layer columns related)

variable {replies}

theorem endsLookup_of_ne {layer : Layer} {table : String} (h : table ≠ layer.table) :
    endsLookup replies layer table = untold replies table := by
  unfold endsLookup untold
  split <;> simp [h]

theorem relatedTold_cons (relation : Relation) (relations : List Relation) :
    relatedTold replies (relation :: relations) = (do
      let columns ← told (replies relation.table)
      let related ← relatedTold replies relations
      pure (.ofColumns relation columns :: related)) := by
  rw [relatedTold, List.mapM_cons]
  cases told (replies relation.table) <;> rfl

theorem follows_run {σ α : Type} {responder : Responder σ} (h : RepliesAlike responder replies)
    (session : Session α) (state : σ) :
    Follows replies (session.run responder state).exchanges := by
  intro exchange hexchange table hquestion
  obtain ⟨asked, hreply⟩ := Session.reply_of_mem_exchanges hexchange
  rw [hreply, hquestion, h]

theorem Follows.append {before after : List (Command × Reply)} :
    Follows replies (before ++ after) ↔ Follows replies before ∧ Follows replies after :=
  List.forall_mem_append

theorem upTo_sublist (stop : String → Bool) (tables : List String) :
    (upTo stop tables).Sublist tables := by
  induction tables with
  | nil => exact List.Sublist.refl _
  | cons table tables ih =>
      rw [upTo]
      split
      · exact (List.nil_sublist tables).cons_cons table
      · exact ih.cons_cons table

theorem upTo_congr {stop stop' : String → Bool} {tables : List String}
    (h : ∀ table ∈ tables, stop table = stop' table) : upTo stop tables = upTo stop' tables := by
  induction tables with
  | nil => rfl
  | cons table tables ih =>
      rw [List.forall_mem_cons] at h
      rw [upTo, upTo, h.1, ih h.2]

theorem keeps_empty : Keeps replies .empty [] := by
  intro table columns
  exact ⟨nofun, fun h => absurd h.1 List.not_mem_nil⟩

variable {kept kept' : Known} {asked : List String} {table : String}

theorem Keeps.told {columns : List Field} (h : Keeps replies kept asked)
    (htold : told (replies table) = .ok columns) :
    Keeps replies (kept.insert table columns) (asked ++ [table]) := by
  intro other found
  rw [Dictionary.find?_insert, List.mem_append, List.mem_singleton]
  split
  case isTrue heq => simp [heq, htold]
  case isFalse hne => simp [h other found, hne]

theorem Keeps.untold {e : Error} (h : Keeps replies kept asked)
    (huntold : Catalog.told (replies table) = .error e) :
    Keeps replies kept (asked ++ [table]) := by
  intro other found
  rw [h other found, List.mem_append, List.mem_singleton, or_and_right]
  constructor
  · exact .inl
  · rintro (hasked | ⟨rfl, htold⟩)
    · exact hasked
    · rw [huntold] at htold
      cases htold

variable {exchanges : List (Command × Reply)}

theorem trace_askColumns_of_follows {result : Except Error (List Field)}
    (h : (askColumns table).Trace exchanges result) (hfollows : Follows replies exchanges) :
    exchanges = [(question table, replies table)] ∧ result = Catalog.told (replies table) := by
  obtain ⟨reply, rfl, rfl⟩ := trace_askColumns h
  obtain rfl : reply = replies table := hfollows _ List.mem_cons_self _ rfl
  exact ⟨rfl, rfl⟩

/-- How the columns of a table are come by, and what is kept then. -/
inductive ColumnsKept (replies : String → Reply) (kept : Known) (table : String) :
    List (Command × Reply) → Except Error (List Field) × Known → Prop where
  | known {columns : List Field} (hknown : kept.find? table = some columns) :
      ColumnsKept replies kept table [] (.ok columns, kept)
  | told {columns : List Field} (hunknown : kept.find? table = none)
      (htold : told (replies table) = .ok columns) :
      ColumnsKept replies kept table [(question table, replies table)]
        (.ok columns, kept.insert table columns)
  | untold {e : Error} (hunknown : kept.find? table = none)
      (huntold : Catalog.told (replies table) = .error e) :
      ColumnsKept replies kept table [(question table, replies table)] (.error e, kept)

theorem trace_columnsKept {result : Except Error (List Field) × Known}
    (h : (columnsKept kept table).Trace exchanges result) (hfollows : Follows replies exchanges) :
    ColumnsKept replies kept table exchanges result := by
  unfold columnsKept at h
  cases hfound : kept.find? table with
  | some columns =>
      rw [hfound] at h
      cases h
      exact .known hfound
  | none =>
      rw [hfound] at h
      obtain ⟨answer, before, after, hbefore, hafter, rfl⟩ := Session.trace_bind h
      obtain ⟨rfl, rfl⟩ := trace_askColumns_of_follows hbefore (Follows.append.1 hfollows).1
      cases htold : told (replies table) with
      | ok columns =>
          rw [htold] at hafter
          cases hafter
          exact .told hfound htold
      | error e =>
          rw [htold] at hafter
          cases hafter
          exact .untold hfound htold

/-- The related tables that are not kept are asked for until no columns are told of one. -/
theorem trace_relatedKept {relations : List Relation}
    {result : Except Error (List RelatedCatalog) × Known} (hkept : Keeps replies kept asked)
    (h : (relatedKept kept relations).Trace exchanges result) (hfollows : Follows replies exchanges) :
    ∃ tables, tables = upTo (untold replies) (unknownTables kept relations) ∧
      exchanges = tables.map (fun table => (question table, replies table)) ∧
      result.1 = relatedTold replies relations ∧ Keeps replies result.2 (asked ++ tables) := by
  induction relations generalizing kept asked exchanges result with
  | nil =>
      cases h
      exact ⟨[], rfl, rfl, rfl, by rwa [List.append_nil]⟩
  | cons relation relations ih =>
      unfold relatedKept at h
      obtain ⟨told, before, after, hbefore, hafter, rfl⟩ := Session.trace_bind h
      obtain ⟨hfirst, hrest⟩ := Follows.append.1 hfollows
      rcases trace_columnsKept hbefore hfirst with hknown | ⟨hunknown, htold⟩ | ⟨hunknown, huntold⟩
      case untold =>
        cases hafter
        refine ⟨[relation.table], ?_, rfl, ?_, hkept.untold huntold⟩
        · rw [unknownTables_of_unknown hunknown [], upTo, untold, huntold]
          rfl
        · rw [relatedTold_cons, huntold]
          rfl
      case known columns =>
        obtain ⟨related, middle, last, hmiddle, hlast, rfl⟩ := Session.trace_bind hafter
        cases hlast
        rw [List.append_nil] at hrest
        obtain ⟨tables, htables, hexchanges, hresult, hkept'⟩ := ih hkept hmiddle hrest
        have htold := ((hkept _ _).1 hknown).2
        refine ⟨tables, ?_, ?_, ?_, hkept'⟩
        · rw [unknownTables_of_known hknown, htables]
        · rw [List.nil_append, List.append_nil, hexchanges]
        · rw [relatedTold_cons, htold, hresult]
          rfl
      case told columns =>
        obtain ⟨related, middle, last, hmiddle, hlast, rfl⟩ := Session.trace_bind hafter
        cases hlast
        rw [List.append_nil] at hrest
        obtain ⟨tables, htables, hexchanges, hresult, hkept'⟩ := ih (hkept.told htold) hmiddle hrest
        refine ⟨relation.table :: tables, ?_, ?_, ?_, ?_⟩
        · rw [unknownTables_of_unknown hunknown columns, upTo, untold, htold, htables]
          rfl
        · rw [hexchanges, List.append_nil, List.map_cons]
          rfl
        · rw [relatedTold_cons, htold, hresult]
          rfl
        · rwa [List.append_cons]

/-- The catalog that is told is the one that is looked up, and the tables that are asked for are those
that are needed first, whether what is told is kept or not. -/
theorem trace_lookupKept {layer : Layer} {result : Except Error Catalog × Known}
    (h : (lookupKept .empty layer).Trace exchanges result) (hfollows : Follows replies exchanges) :
    exchanges = (tablesAsked replies layer).map (fun table => (question table, replies table)) ∧
      result.1 = catalogTold replies layer ∧
      Keeps replies result.2 (tablesAsked replies layer) := by
  have hneeded : firstOccurrences (layer.table :: layer.relations.map (·.table)) =
      layer.table :: layer.relatedTables := rfl
  unfold lookupKept at h
  obtain ⟨told, before, after, hbefore, hafter, rfl⟩ := Session.trace_bind h
  obtain ⟨hfirst, hrest⟩ := Follows.append.1 hfollows
  rw [tablesAsked, hneeded, upTo]
  rcases trace_columnsKept hbefore hfirst with hknown | ⟨hunknown, htold⟩ | ⟨hunknown, huntold⟩
  case known => cases hknown
  case untold =>
    cases hafter
    have hends : endsLookup replies layer layer.table = true := by rw [endsLookup, huntold]
    rw [hends, if_pos rfl]
    refine ⟨rfl, ?_, keeps_empty.untold huntold⟩
    rw [catalogTold, huntold]
    rfl
  case told columns =>
    have hends : endsLookup replies layer layer.table = columns.isEmpty := by simp [endsLookup, htold]
    rw [hends]
    cases columns with
    | nil =>
        cases hafter
        refine ⟨rfl, ?_, keeps_empty.told htold⟩
        rw [catalogTold, htold]
        rfl
    | cons column columns =>
        obtain ⟨related, middle, last, hmiddle, hlast, rfl⟩ := Session.trace_bind hafter
        cases hlast
        rw [List.append_nil] at hrest
        obtain ⟨tables, htables, hexchanges, hresult, hkept⟩ :=
          trace_relatedKept (keeps_empty.told htold) hmiddle hrest
        rw [unknownTables_own] at htables
        have hrelated : upTo (endsLookup replies layer) layer.relatedTables = tables := by
          rw [htables]
          apply upTo_congr
          intro table htable
          exact endsLookup_of_ne (by simpa using (List.mem_filter.1 htable).2)
        rw [hrelated, List.isEmpty_cons, if_neg Bool.false_ne_true]
        refine ⟨?_, ?_, hkept⟩
        · rw [hexchanges, List.append_nil, List.map_cons]
          rfl
        · rw [catalogTold, htold, hresult]
          cases relatedTold replies layer.relations <;> rfl

/-- What comes after a table was asked for. -/
theorem trace_askColumns_bind {α : Type} {f : List Field → Work α} {result : Except Error α}
    (h : (askColumns table >>= f).Trace exchanges result) (hfollows : Follows replies exchanges) :
    (∃ e, told (replies table) = .error e ∧ result = .error e) ∨
      ∃ columns after, told (replies table) = .ok columns ∧ (f columns).Trace after result ∧
        Follows replies after := by
  rcases Work.trace_bind h with ⟨e, hasked, rfl⟩ | ⟨columns, before, after, hasked, hrest, rfl⟩
  · obtain ⟨-, htold⟩ := trace_askColumns_of_follows hasked hfollows
    exact .inl ⟨e, htold.symm, rfl⟩
  · obtain ⟨hfirst, hafter⟩ := Follows.append.1 hfollows
    obtain ⟨-, htold⟩ := trace_askColumns_of_follows hasked hfirst
    exact .inr ⟨columns, after, htold.symm, hrest, hafter⟩

theorem trace_relatedAnew {relations : List Relation} {result : Except Error (List RelatedCatalog)}
    (h : (relatedAnew relations).Trace exchanges result) (hfollows : Follows replies exchanges) :
    result = relatedTold replies relations := by
  induction relations generalizing exchanges result with
  | nil => exact (Work.trace_pure h).2
  | cons relation relations ih =>
      unfold relatedAnew at h
      rw [relatedTold_cons]
      rcases trace_askColumns_bind h hfollows with
        ⟨e, huntold, rfl⟩ | ⟨columns, after, htold, hrest, hfollows'⟩
      · rw [huntold]
        rfl
      · rw [htold]
        rcases Work.trace_bind hrest with
          ⟨e, hrelated, rfl⟩ | ⟨related, middle, last, hrelated, hlast, rfl⟩
        · rw [← ih hrelated hfollows']
          rfl
        · rw [← ih hrelated (Follows.append.1 hfollows').1]
          exact (Work.trace_pure hlast).2

theorem trace_lookupAnew {layer : Layer} {result : Except Error Catalog}
    (h : (lookupAnew layer).Trace exchanges result) (hfollows : Follows replies exchanges) :
    result = catalogTold replies layer := by
  unfold lookupAnew at h
  rw [catalogTold]
  rcases trace_askColumns_bind h hfollows with
    ⟨e, huntold, rfl⟩ | ⟨columns, after, htold, hrest, hfollows'⟩
  · rw [huntold]
    rfl
  · rw [htold]
    cases columns with
    | nil => exact (Work.trace_throw hrest).2
    | cons column columns =>
        rcases Work.trace_bind hrest with
          ⟨e, hrelated, rfl⟩ | ⟨related, middle, last, hrelated, hlast, rfl⟩
        · have htold := trace_relatedAnew hrelated hfollows'
          change _ = relatedTold replies layer.relations >>= _
          rw [← htold]
          rfl
        · have htold := trace_relatedAnew hrelated (Follows.append.1 hfollows').1
          change _ = relatedTold replies layer.relations >>= _
          rw [← htold]
          exact (Work.trace_pure hlast).2

/-! ### The catalogs of related tables -/

/-- The columns of a related table have their own names in its catalog, in order. -/
theorem columns_ofColumns (relation : Relation) (columns : List Field) :
    (RelatedCatalog.ofColumns relation columns).columns = columns.map (·.name) := by
  rw [RelatedCatalog.columns, RelatedCatalog.ofColumns, List.map_map]
  apply List.map_congr_left
  intro column _
  have hqualified : (relation.qualify column.name).toList =
      (relation.title.toList ++ ['.']) ++ column.name.toList := by
    rw [Relation.toList_qualify, List.append_assoc]
    rfl
  rw [← String.toList_inj, Function.comp_apply, String.toList_ofList, Relation.field, hqualified]
  exact List.drop_left' (by simp [String.length_toList])

theorem names_ofColumns (relation : Relation) (columns : List Field) :
    (RelatedCatalog.ofColumns relation columns).names =
      columns.map fun column => relation.title ++ "." ++ column.name := by
  rw [RelatedCatalog.names, RelatedCatalog.ofColumns, List.map_map]
  rfl

theorem forall₂_relatedTold {relations : List Relation} {related : List RelatedCatalog}
    (h : relatedTold replies relations = .ok related) :
    List.Forall₂ (fun relation catalog => ∃ columns,
      told (replies relation.table) = .ok columns ∧ catalog = .ofColumns relation columns)
      relations related := by
  induction relations generalizing related with
  | nil =>
      cases h
      exact .nil
  | cons relation relations ih =>
      rw [relatedTold_cons] at h
      obtain ⟨columns, htold, h⟩ := exists_ok_of_bind h
      obtain ⟨others, hothers, h⟩ := exists_ok_of_bind h
      cases h
      exact .cons ⟨columns, htold, rfl⟩ (ih hothers)

theorem relatedTold_of_catalogTold {layer : Layer} {catalog : Catalog}
    (h : catalogTold replies layer = .ok catalog) :
    relatedTold replies layer.relations = .ok catalog.related := by
  obtain ⟨columns, -, h⟩ := exists_ok_of_bind h
  cases columns with
  | nil => cases h
  | cons column columns =>
      obtain ⟨related, hrelated, h⟩ := exists_ok_of_bind h
      cases h
      exact hrelated

/-- A catalog is looked up by asking for each table once, in the order in which the tables are needed
first, until the layer's own table has no columns or a table cannot be told. That gives the catalog,
or the error, that asking for every table anew would give; what is kept then are the columns of the
tables that were told, and nothing of one that was not. The columns of a related table are in the
catalog in their order, by their own names and behind the title of the relation. -/
theorem lookup_asks_once {σ : Type} {responder : Responder σ} (h : RepliesAlike responder replies)
    (layer : Layer) (state : σ) :
    let looked := Session.run responder (ExceptT.run (lookup layer)) state
    let session := Session.run responder (lookupKept .empty layer) state
    let tables := tablesAsked replies layer
    looked.value = session.value.1 ∧ looked.exchanges = session.exchanges ∧
      looked.exchanges = tables.map (fun table => (question table, replies table)) ∧ tables.Nodup ∧
      looked.value = (Session.run responder (ExceptT.run (lookupAnew layer)) state).value ∧
      (∀ table columns, session.value.2.find? table = some columns ↔
        table ∈ tables ∧ told (replies table) = .ok columns) ∧
      ∀ catalog, looked.value = .ok catalog →
        List.Forall₂ (fun relation related => ∃ columns,
          told (replies relation.table) = .ok columns ∧
          related.columns = columns.map (·.name) ∧
          related.names = columns.map fun column => relation.title ++ "." ++ column.name)
          layer.relations catalog.related := by
  intro looked session tables
  have hsame : looked.value = session.value.1 ∧ looked.exchanges = session.exchanges := by
    have hrun := Session.run_bind_done responder (lookupKept .empty layer) Prod.fst state
    have hlooked : looked = _ := congrArg (Session.run responder · state) (run_lookup layer)
    rw [hlooked, hrun]
    exact ⟨rfl, rfl⟩
  obtain ⟨hexchanges, hresult, hkept⟩ := trace_lookupKept
    (Session.trace_run responder (lookupKept .empty layer) state) (follows_run h _ state)
  have hanew := trace_lookupAnew
    (Work.trace_run responder (lookupAnew layer) state) (follows_run h _ state)
  refine ⟨hsame.1, hsame.2, hsame.2.trans hexchanges, ?_, ?_, hkept, ?_⟩
  · exact (upTo_sublist _ _).nodup (nodup_firstOccurrences _)
  · rw [hsame.1, hanew]
    exact hresult
  · intro catalog hcatalog
    have htold : catalogTold replies layer = .ok catalog := by
      rw [← hcatalog, hsame.1]
      exact hresult.symm
    refine (forall₂_relatedTold (relatedTold_of_catalogTold htold)).imp ?_
    rintro relation _ ⟨columns, hcolumns, rfl⟩
    exact ⟨columns, hcolumns, columns_ofColumns relation columns, names_ofColumns relation columns⟩

/-- Wells with relations to their samples, to other wells, to a table that may not be read, and to the
samples once more. -/
def linkedWells : Layer where
  id := 0
  name := "Wells"
  table := "db_wells"
  kind := .point
  relations := [⟨"samples", 0, "db_id", "well_id", "db_samples"⟩,
    ⟨"parent", 1, "parent_id", "db_id", "db_wells"⟩, ⟨"owners", 2, "owner_id", "db_id", "db_owners"⟩,
    ⟨"again", 3, "db_id", "well_id", "db_samples"⟩]

/-- What a database replies that does not let the owners be read. -/
def guardedReplies (table : String) : Reply :=
  if table = "db_wells" then
    .ok { rows := [[.text "db_id", .text "NO", .text "integer"],
      [.text "parent_id", .text "YES", .text "integer"]] }
  else if table = "db_samples" then .ok { rows := [[.text "ph", .text "YES", .text "real"]] }
  else .error { message := "permission denied" }

def guardedServer : Responder Unit where
  connect _ := (true, ())
  reply command _ :=
    match command with
    | .run ⟨_, [.text table]⟩ _ => (guardedReplies table, ())
    | _ => (.ok {}, ())

theorem lookup_asks_once_wells :
    let looked := Session.run guardedServer (ExceptT.run (lookup linkedWells)) ()
    let kept := (Session.run guardedServer (lookupKept .empty linkedWells) ()).value.2
    RepliesAlike guardedServer guardedReplies ∧
      looked.exchanges.map Prod.fst =
        [question "db_wells", question "db_samples", question "db_owners"] ∧
      looked.value = (Session.run guardedServer (ExceptT.run (lookupAnew linkedWells)) ()).value ∧
      kept.find? "db_owners" = none ∧
      kept.find? "db_samples" = some [.ofColumn "ph" "real" true] := by
  intro looked kept
  have halike : RepliesAlike guardedServer guardedReplies := fun _ _ => rfl
  obtain ⟨-, -, hexchanges, -, hanew, hkept, -⟩ := lookup_asks_once halike linkedWells ()
  have htables : tablesAsked guardedReplies linkedWells = ["db_wells", "db_samples", "db_owners"] := by
    decide +kernel
  rw [htables] at hexchanges hkept
  refine ⟨halike, ?_, hanew, ?_, ?_⟩
  · rw [hexchanges]
    rfl
  · apply Option.eq_none_iff_forall_ne_some.2
    intro columns hfound
    cases ((hkept _ _).1 hfound).2
  · exact (hkept _ _).2 ⟨by decide, rfl⟩

end Catalog

end GeoLayers
