import GeoLayers.Proofs.Database.Trace
import GeoLayers.Proofs.Query.Distinct
import GeoLayers.Proofs.Query.PageClause
import GeoLayers.Query.Answer

/-!
Pages that are asked for one after the other. Each statement asks for one row more than its page
holds; the row is dropped, and it alone tells that there is another page. So with a database that
answers every statement with its part of one list of rows, the pages hold the features of these rows,
each once and in order, also where the rows end with a page.
-/

namespace GeoLayers

open Database

/-- The members of an answered row. -/
abbrev Members := List (String × Json)

/-- A reply that holds some rows. -/
def rowsReply (rows : List Members) : Reply :=
  .ok { rows := rows.map fun row => [.json (.object row)] }

/-- The request for a page, counted from zero. -/
def QueryRequest.page (request : QueryRequest) (size place : Nat) : QueryRequest :=
  { request with limit := size, offset := (place * size : Nat) }

/-- The answer to a request for something else than a table. -/
def requestAnswer (layer : Layer) (catalog : Catalog) (reference : SpatialReference)
    (request : QueryRequest) : Work QueryAnswer := do
  let page ← Page.load layer catalog request
  QueryAnswer.ofPage layer catalog reference request page

section Pages

variable {σ : Type} (responder : Responder σ) (layer : Layer) (catalog : Catalog)
  (reference : SpatialReference) (request : QueryRequest) (size : Nat)

/-- A database answers the statements of all pages with the parts of the rows that they ask for. -/
def Serves (rows : List Members) : Prop :=
  ∀ place s, compile layer catalog (request.page size place) = .ok s →
    ∀ count start, s.page? = some (count, start) →
      ∀ state, (responder.reply (.run s.asJsonRows [.json]) state).1 =
        rowsReply ((rows.drop start).take count)

/-- The answer to a request for a page. -/
def pageAnswer (place : Nat) : Work QueryAnswer := do
  let page ← Page.load layer catalog (request.page size place)
  QueryAnswer.ofPage layer catalog reference (request.page size place) page

/-- How a request for a page goes. -/
def pageRecord (place : Nat) (state : σ) : Record (Except Error QueryAnswer) σ :=
  Session.run responder (ExceptT.run (pageAnswer layer catalog reference request size place)) state

/-- The features of the pages from one on, until a page is not marked to have one after it. -/
inductive Walk : Nat → σ → List Feature → Prop where
  | last {place : Nat} {state : σ} {set : FeatureSet}
      (h : (pageRecord responder layer catalog reference request size place state).value =
        .ok (.features set))
      (hlast : set.exceeded = false) : Walk place state set.features
  | next {place : Nat} {state : σ} {set : FeatureSet} {features : List Feature}
      (h : (pageRecord responder layer catalog reference request size place state).value =
        .ok (.features set))
      (hmore : set.exceeded = true)
      (hrest : Walk (place + 1)
        (pageRecord responder layer catalog reference request size place state).state features) :
      Walk place state (set.features ++ features)

/-- A page holds its part of the features, and is marked if there are more. -/
structure IsPage (all : List Feature) (place : Nat) (set : FeatureSet) : Prop where
  features : set.features = (all.drop (place * size)).take size
  exceeded : set.exceeded = true ↔ (place + 1) * size < all.length

end Pages

variable {σ : Type} {responder : Responder σ} {layer : Layer} {catalog : Catalog}
  {reference : SpatialReference} {request : QueryRequest} {size : Nat} {rows : List Members}
  {s : Statement}

/-- What a query asks for is planned without a look at the page. -/
theorem make_page (place : Nat) :
    Plan.make layer catalog (request.page size place) = Plan.make layer catalog request := rfl

theorem pageLimit?_page (hfeatures : request.asksFeatures = true) (hids : request.objectIds = [])
    (hsize : 1 ≤ size) (place : Nat) :
    (request.page size place).isPaged = true ∧
      (request.page size place).pageLimit? = some (size : Int) := by
  have hids' := (QueryRequest.asksFeatures_iff.1 hfeatures).1
  have hpaged : (request.page size place).isPaged = true := by
    simp [QueryRequest.isPaged, QueryRequest.page, hids', hids]
  have hpositive : 0 < (request.page size place).limit := Int.natCast_pos.2 hsize
  refine ⟨hpaged, ?_⟩
  rw [QueryRequest.pageLimit?, hpaged, decide_eq_true hpositive]
  rfl

theorem exists_compile_page (h : compile layer catalog request = .ok s) (size place : Nat) :
    ∃ s', compile layer catalog (request.page size place) = .ok s' := by
  obtain ⟨plan, hplan, -⟩ := exists_ok_of_bind h
  exact ⟨_, Plan.compile_of_make ((make_page place).trans hplan)⟩

/-- Answered rows are read as they are. -/
theorem mapM_ofRow? (found : List Members) :
    (found.map fun row => [Cell.json (.object row)]).mapM Json.ofRow? =
      some (found.map Json.object) := by
  induction found with
  | nil => rfl
  | cons row found ih => rw [List.map_cons, List.mapM_cons, ih]; rfl

theorem filterMap_ofJson? (found : List Members) :
    (found.map Json.object).filterMap Attributes.ofJson? = found.map Dictionary.ofList := by
  induction found with
  | nil => rfl
  | cons row found ih => exact congrArg (Dictionary.ofList row :: ·) ih

theorem value_loadRows {state : σ} {found : List Members}
    (hreply : (responder.reply (.run s.asJsonRows [.json]) state).1 = rowsReply found) :
    (Session.run responder (ExceptT.run (loadRows s)) state).value =
      .ok (found.map Dictionary.ofList) := by
  have hread : Work.readRows Json.ofRow?
      { rows := found.map fun row => [.json (.object row)] } = pure (found.map Json.object) := by
    rw [Work.readRows, mapM_ofRow?]
  unfold loadRows
  rw [Work.value_run_bind (Work.value_run hreply), hread]
  exact congrArg Except.ok (filterMap_ofJson? found)

/-- The answer to a request that the database answers with some rows is that of their page. -/
theorem value_requestAnswer (reference : SpatialReference)
    (hcompile : compile layer catalog request = .ok s) {state : σ} {found : List Members}
    (hreply : (responder.reply (.run s.asJsonRows [.json]) state).1 = rowsReply found) :
    (Session.run responder (ExceptT.run (requestAnswer layer catalog reference request)) state).value =
      QueryAnswer.ofPage layer catalog reference request
        (Page.ofRows request.pageLimit? (found.map Dictionary.ofList)) := by
  have hpage : (Session.run responder (ExceptT.run (Page.load layer catalog request)) state).value =
      .ok (Page.ofRows request.pageLimit? (found.map Dictionary.ofList)) := by
    unfold Page.load
    rw [hcompile]
    change (Session.run responder (ExceptT.run (loadRows s >>= fun rows => pure _)) state).value = _
    rw [Work.value_run_bind (value_loadRows hreply)]
    rfl
  unfold requestAnswer
  rw [Work.value_run_bind hpage]
  rfl

/-- Of the row more than a page holds only the mark stays. -/
theorem Page.ofRows_extra {all : List Attributes} {start : Nat} :
    Page.ofRows (some (size : Int)) ((all.drop start).take (size + 1)) =
      ⟨(all.drop start).take size, decide (start + size < all.length)⟩ := by
  have hlength : ((all.drop start).take (size + 1)).length = min (size + 1) (all.length - start) := by
    rw [List.length_take, List.length_drop]
  by_cases hmore : start + size < all.length
  · have hextra : (size : Int) < ((all.drop start).take (size + 1)).length := by
      rw [hlength]
      omega
    rw [Page.ofRows, if_pos hextra, Int.toNat_natCast, List.take_take, decide_eq_true hmore,
      Nat.min_eq_left (Nat.le_succ size)]
  · have hfits : ¬ (size : Int) < ((all.drop start).take (size + 1)).length := by
      rw [hlength]
      omega
    have hall : (all.drop start).length ≤ size := by
      rw [List.length_drop]
      omega
    rw [Page.ofRows, if_neg hfits, decide_eq_false hmore, List.take_of_length_le hall,
      List.take_of_length_le (Nat.le_succ_of_le hall)]

/-- What is answered with a page are the features of its rows, and its mark. -/
theorem QueryAnswer.ofPage_of_assemble (catalog : Catalog) (reference : SpatialReference)
    {asked : QueryRequest} {page : Page} {found : List Feature}
    (hids : asked.idsOnly = false) (hcount : asked.countOnly = false)
    (hfound : assemble layer page.rows = .ok found) :
    ∃ set, QueryAnswer.ofPage layer catalog reference asked page = .ok (.features set) ∧
      set.features = found ∧ set.exceeded = page.exceeded := by
  unfold QueryAnswer.ofPage FeatureSet.ofPage
  rw [hids, hcount, hfound]
  exact ⟨_, rfl, rfl, rfl⟩

/-- The features of rows are settled by the rows one by one. -/
theorem features_unique {all : List Attributes} {features others : List Feature}
    (h : List.Forall₂ (fun row feature => assemble layer [row] = .ok [feature]) all features)
    (h' : List.Forall₂ (fun row feature => assemble layer [row] = .ok [feature]) all others) :
    features = others := by
  induction h generalizing others with
  | nil =>
      cases h'
      rfl
  | cons hrow _ ih =>
      cases h' with
      | cons hrow' hmore' =>
          rw [hrow] at hrow'
          obtain rfl := (List.cons.inj (Except.ok.inj hrow')).1
          rw [ih hmore']

/-- The rows of a page, with the mark that there are more. -/
def pageOf (rows : List Members) (size place : Nat) : Page :=
  ⟨((rows.map Dictionary.ofList).drop (place * size)).take size,
    decide (place * size + size < rows.length)⟩

section Served

variable (h : compile layer catalog request = .ok s) (hfeatures : request.asksFeatures = true)
  (hids : request.objectIds = []) (hsize : 1 ≤ size) (hword : (size : Int) < Number.maxInt64)
  (hserves : Serves responder layer catalog request size rows)

include h hfeatures hids hsize hword hserves

/-- Every request for a page is answered with the page of the rows. -/
theorem value_page (reference : SpatialReference) (place : Nat) (state : σ) :
    (pageRecord responder layer catalog reference request size place state).value =
      QueryAnswer.ofPage layer catalog reference (request.page size place)
        (pageOf rows size place) := by
  obtain ⟨s', hcompile⟩ := exists_compile_page h size place
  obtain ⟨hpaged, hlimit⟩ := pageLimit?_page hfeatures hids hsize place
  have hpage := page?_of_compile hcompile hpaged rfl hsize hword rfl
  have hvalue := value_requestAnswer reference hcompile (hserves place s' hcompile _ _ hpage state)
  rw [hlimit, List.map_take, List.map_drop, Page.ofRows_extra, List.length_map] at hvalue
  exact hvalue

variable (hrows : DistinctRows layer (rows.map Dictionary.ofList)) {features : List Feature}
  (hall : List.Forall₂ (fun row feature => assemble layer [row] = .ok [feature])
    (rows.map Dictionary.ofList) features)

include hrows hall

theorem exists_page (reference : SpatialReference) (place : Nat) (state : σ) :
    ∃ set, (pageRecord responder layer catalog reference request size place state).value =
      .ok (.features set) ∧ IsPage size features place set := by
  have hvalue := value_page h hfeatures hids hsize hword hserves reference place state
  have hslice : (((rows.map Dictionary.ofList).drop (place * size)).take size).Sublist
      (rows.map Dictionary.ofList) :=
    (List.take_sublist _ _).trans (List.drop_sublist _ _)
  obtain ⟨found, hfound, hfoundAll⟩ := (hrows.sublist hslice).assemble
  have hequal : found = (features.drop (place * size)).take size :=
    features_unique hfoundAll (List.forall₂_take size (List.forall₂_drop (place * size) hall))
  have hlength : rows.length = features.length := by rw [← hall.length_eq, List.length_map]
  have hasked : (request.page size place).idsOnly = false ∧
      (request.page size place).countOnly = false := QueryRequest.asksFeatures_iff.1 hfeatures
  have hpageFound : assemble layer (pageOf rows size place).rows = .ok found := hfound
  obtain ⟨set, hset, hsetFeatures, hsetExceeded⟩ :=
    QueryAnswer.ofPage_of_assemble catalog reference hasked.1 hasked.2 hpageFound
  refine ⟨set, hvalue.trans hset, hsetFeatures.trans hequal, ?_⟩
  rw [hsetExceeded, pageOf, decide_eq_true_iff, hlength, Nat.add_mul, Nat.one_mul]

theorem walk_iff (reference : SpatialReference) (state : σ) (place : Nat) (found : List Feature) :
    Walk responder layer catalog reference request size place state found ↔
      found = features.drop (place * size) := by
  have hpage := exists_page h hfeatures hids hsize hword hserves hrows hall reference
  constructor
  · intro hwalk
    induction hwalk with
    | last hvalue hlast =>
        rename_i place state set
        obtain ⟨other, hother, hisPage⟩ := hpage place state
        obtain rfl := QueryAnswer.features.inj (Except.ok.inj (hvalue.symm.trans hother))
        have hend : features.length ≤ (place + 1) * size := by
          rw [← Nat.not_lt, ← hisPage.exceeded, hlast]
          decide
        rw [hisPage.features, List.take_of_length_le]
        rw [List.length_drop]
        rw [Nat.add_mul] at hend
        omega
    | next hvalue hmore hrest ih =>
        rename_i place state set rest
        obtain ⟨other, hother, hisPage⟩ := hpage place state
        obtain rfl := QueryAnswer.features.inj (Except.ok.inj (hvalue.symm.trans hother))
        rw [hisPage.features, ih, Nat.add_mul, Nat.one_mul, ← List.drop_drop]
        exact List.take_append_drop _ _
  · rintro rfl
    -- Each page that is marked leaves fewer features for the pages after it.
    induction hleft : features.length - place * size using Nat.strong_induction_on
      generalizing place state with
    | _ left ih =>
        obtain ⟨set, hvalue, hisPage⟩ := hpage place state
        cases hexceeded : set.exceeded with
        | false =>
            have hend : features.length ≤ (place + 1) * size := by
              rw [← Nat.not_lt, ← hisPage.exceeded, hexceeded]
              decide
            have hwhole : (features.drop (place * size)).length ≤ size := by
              rw [List.length_drop]
              rw [Nat.add_mul] at hend
              omega
            rw [← List.take_of_length_le hwhole, ← hisPage.features]
            exact .last hvalue hexceeded
        | true =>
            have hmore := hisPage.exceeded.1 hexceeded
            have hless : features.length - (place + 1) * size < left := by
              rw [Nat.add_mul] at hmore ⊢
              omega
            have hrest := ih _ hless
              (pageRecord responder layer catalog reference request size place state).state (place + 1) rfl
            have hsplit : features.drop (place * size) =
                set.features ++ features.drop ((place + 1) * size) := by
              rw [hisPage.features, Nat.add_mul, Nat.one_mul, ← List.drop_drop,
                List.take_append_drop]
            rw [hsplit]
            exact .next hvalue hexceeded hrest

end Served

/-- A statement of a page whose rows are sorted by a column, perhaps after and before others. -/
def SortsBy (s : Statement) (column : String) : Prop :=
  ∃ (before : String) (keys : List String) (number : Nat) (start : String),
    s.sql = before ++ " " ++ ("ORDER BY " ++ ", ".intercalate keys) ++ " " ++ "LIMIT" ++ " " ++
      ("$" ++ toString number) ++ " " ++ start ∧
    (start = "" ∨ ∃ number : Nat, start = "OFFSET" ++ " " ++ ("$" ++ toString number)) ∧
    ∃ key ∈ keys, key = column ∨ key = column ++ " ASC" ∨ key = column ++ " DESC"

/-- The statement of a page of features sorts them by the object id. -/
theorem sortsBy_of_compile (h : compile layer catalog request = .ok s)
    (hfeatures : request.asksFeatures = true) (hlimited : request.pageLimit?.isSome = true) :
    SortsBy s (fieldText layer.objectIdField) := by
  obtain ⟨plan, -, hanswers, rfl⟩ := compile_layout h
  obtain ⟨before, hsql⟩ := sql_end layer plan request (request.boundValues layer)
  obtain ⟨names, geometry, hprojection⟩ : ∃ names geometry,
      plan.projection = .fields names geometry := by
    rw [QueryRequest.asksFeatures_iff] at hfeatures
    cases hprojection : plan.projection with
    | count => simp [hanswers.count hprojection] at hfeatures
    | ids => simp [hanswers.ids hprojection] at hfeatures
    | fields names geometry => exact ⟨names, geometry, rfl⟩
  obtain ⟨field, hmem, hname⟩ := Plan.exists_mem_order layer hprojection (plan.relations layer)
  have hkey : Plan.sortText field ∈ (plan.order layer (plan.relations layer)).map Plan.sortText :=
    List.mem_map_of_mem hmem
  have horder : plan.orderText layer = "ORDER BY " ++
      ", ".intercalate ((plan.order layer (plan.relations layer)).map Plan.sortText) := by
    unfold Plan.orderText
    exact if_neg (by simpa using List.ne_nil_of_mem hmem)
  rw [horder, if_pos hlimited] at hsql
  refine ⟨before, _, (request.boundValues layer).idxOf .limit + 1, _,
    by simpa only [String.append_assoc] using hsql, ?_, _, hkey, ?_⟩
  · split
    · exact .inr ⟨_, rfl⟩
    · exact .inl rfl
  · rw [Plan.sortText, hname]
    cases field.direction with
    | none => exact .inl rfl
    | some direction =>
        cases direction with
        | ascending => exact .inr (.inl rfl)
        | descending => exact .inr (.inr rfl)

/-- Pages that are asked for one after the other visit every row once. With a database that holds
rows with distinct object ids, each page answers the features of its rows in their order and is
marked exactly if there are rows after it, and the walk over the pages ends with the features of all
rows. The rows of every page are sorted by the object id. -/
theorem pages_visit_rows (h : compile layer catalog request = .ok s)
    (hfeatures : request.asksFeatures = true) (hids : request.objectIds = []) (hsize : 1 ≤ size)
    (hword : (size : Int) < Number.maxInt64) (hrows : DistinctRows layer (rows.map Dictionary.ofList))
    (hserves : Serves responder layer catalog request size rows) (reference : SpatialReference) :
    ∃ features : List Feature,
      List.Forall₂ (fun row feature => assemble layer [.ofList row] = .ok [feature]) rows features ∧
      (∀ place state, ∃ set,
        (pageRecord responder layer catalog reference request size place state).value =
          .ok (.features set) ∧ IsPage size features place set) ∧
      (∀ state found, Walk responder layer catalog reference request size 0 state found ↔
        found = features) ∧
      ∀ place s', compile layer catalog (request.page size place) = .ok s' →
        '.' ∉ layer.objectIdField.toList → SortsBy s' (columnOf sourceAlias layer.objectIdField) := by
  obtain ⟨features, -, hall⟩ := hrows.assemble
  refine ⟨features, List.forall₂_map_left_iff.1 hall, ?_, ?_, ?_⟩
  · exact exists_page h hfeatures hids hsize hword hserves hrows hall reference
  · intro state found
    rw [walk_iff h hfeatures hids hsize hword hserves hrows hall, Nat.zero_mul, List.drop_zero]
  · intro place s' hcompile hplain
    have hlimited : (request.page size place).pageLimit?.isSome = true := by
      rw [(pageLimit?_page hfeatures hids hsize place).2]
      rfl
    have hsorted := sortsBy_of_compile hcompile hfeatures hlimited
    rwa [fieldText, Text.cutAt_of_notMem hplain] at hsorted

/-- A statement from the one whose rows are its rows as JSON. -/
def Statement.ofJsonRows? (s : Statement) : Option Statement :=
  ((Text.stripStart "SELECT to_jsonb(q) AS row FROM (" s.sql).bind (Text.stripEnd ") AS q")).map
    fun sql => { s with sql }

theorem Statement.ofJsonRows?_asJsonRows (s : Statement) : ofJsonRows? s.asJsonRows = some s := by
  have hstart : Text.stripStart "SELECT to_jsonb(q) AS row FROM (" s.asJsonRows.sql =
      some (s.sql ++ ") AS q") :=
    Text.stripStart_eq_some.2 (String.append_assoc ..)
  have hend : Text.stripEnd ") AS q" (s.sql ++ ") AS q") = some s.sql :=
    Text.stripEnd_eq_some.2 rfl
  rw [ofJsonRows?, hstart, Option.bind_some, hend]
  rfl

/-- The rows of a page that a statement asks for as JSON. -/
def answerPage (rows : List Members) (statement : Statement) : Reply :=
  ((statement.ofJsonRows?.bind Statement.page?).map fun (count, start) =>
    rowsReply ((rows.drop start).take count)).getD (.ok {})

/-- A database that holds some rows and answers the statements of pages. -/
def pageServer (rows : List Members) : Responder Unit where
  connect _ := (true, ())
  reply command _ :=
    match command with
    | .run statement _ => (answerPage rows statement, ())
    | _ => (.ok {}, ())

theorem serves_pageServer (layer : Layer) (catalog : Catalog) (request : QueryRequest) (size : Nat)
    (rows : List Members) : Serves (pageServer rows) layer catalog request size rows := by
  intro place s _ count start hpage state
  change answerPage rows s.asJsonRows = _
  rw [answerPage, Statement.ofJsonRows?_asJsonRows, Option.bind_some, hpage]
  rfl

/-- A query of all wells without their places. -/
def wellPages : QueryRequest where
  withGeometry := false

/-- Five wells. -/
def fiveWells : List Members :=
  [[("db_id", .integer 3)], [("db_id", .integer 1)], [("db_id", .text "x")], [("db_id", .integer 7)],
    [("db_id", .null)]]

theorem pages_visit_rows_wells :
    ∃ s, compile Join.wells Join.wellsCatalog wellPages = .ok s ∧
      wellPages.asksFeatures = true ∧ wellPages.objectIds = [] ∧ ((2 : Nat) : Int) < Number.maxInt64 ∧
      DistinctRows Join.wells (fiveWells.map Dictionary.ofList) ∧
      Serves (pageServer fiveWells) Join.wells Join.wellsCatalog wellPages 2 fiveWells ∧
      ∃ features : List Feature,
        List.Forall₂ (fun row feature => assemble Join.wells [.ofList row] = .ok [feature]) fiveWells
          features ∧
        (∀ place state, ∃ set,
          (pageRecord (pageServer fiveWells) Join.wells Join.wellsCatalog default wellPages 2 place
            state).value = .ok (.features set) ∧ IsPage 2 features place set) ∧
        (∀ state found,
          Walk (pageServer fiveWells) Join.wells Join.wellsCatalog default wellPages 2 0 state found ↔
            found = features) ∧
        ∀ place s', compile Join.wells Join.wellsCatalog (wellPages.page 2 place) = .ok s' →
          '.' ∉ Join.wells.objectIdField.toList →
            SortsBy s' (columnOf sourceAlias Join.wells.objectIdField) := by
  have hrows : DistinctRows Join.wells (fiveWells.map Dictionary.ofList) := by
    refine ⟨by decide +kernel, by decide +kernel, ?_⟩
    have hnone : ∀ row ∈ fiveWells.map Dictionary.ofList,
        (row.find? geometryColumn).isNone = true := by decide +kernel
    intro row hmem
    refine ⟨none, ?_⟩
    rw [geometryIn, Option.isNone_iff_eq_none.1 (hnone row hmem)]
  have hok : (compile Join.wells Join.wellsCatalog wellPages).isOk = true := by decide +kernel
  have hserves := serves_pageServer Join.wells Join.wellsCatalog wellPages 2 fiveWells
  obtain ⟨s, hcompile⟩ := exists_ok_of_isOk hok
  exact ⟨s, hcompile, rfl, rfl, by decide, hrows, hserves,
    pages_visit_rows hcompile rfl rfl (by decide) (by decide) hrows hserves default⟩

/-- The number of features in an answer. -/
def featureCount? : Except Error QueryAnswer → Option Nat
  | .ok (.features set) => some set.features.length
  | _ => none

/-- Object ids with one text are one feature, whatever else they are: a page of two such rows holds a
single feature. And a column with a period in its name is not one of the layer's table to the
statement, also if it is the one with the object ids. -/
theorem rows_of_equal_texts_merge :
    let rows : List Members := [[("db_id", .integer 1)], [("db_id", .text "1")]]
    let dotted := { Join.wells with objectIdField := "a.b" }
    (Serves (pageServer rows) Join.wells Join.wellsCatalog wellPages 2 rows ∧
      Json.integer 1 ≠ .text "1" ∧
      featureCount? (pageRecord (pageServer rows) Join.wells Join.wellsCatalog default wellPages 2 0
        ()).value = some 1) ∧
    (Plan.make dotted Join.wellsCatalog (wellPages.page 2 0)).toOption.map (·.orderText dotted) =
      some "ORDER BY \"a\".\"b\"" := by
  intro rows dotted
  have hserves := serves_pageServer Join.wells Join.wellsCatalog wellPages 2 rows
  have hok : (compile Join.wells Join.wellsCatalog wellPages).isOk = true := by decide +kernel
  refine ⟨⟨hserves, nofun, ?_⟩, by decide +kernel⟩
  obtain ⟨s, hcompile⟩ := exists_ok_of_isOk hok
  rw [value_page hcompile rfl rfl (by decide) (by decide) hserves default 0 ()]
  decide +kernel

end GeoLayers
