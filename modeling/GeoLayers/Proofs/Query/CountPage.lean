import GeoLayers.Proofs.Query.Paging

/-!
The number of features and the page of a request. A count is a single row, but the statement for it
ends with the page of the request like any other: its limit takes nothing away, and its start passes
over the row. Then the answer is an object without a number. Only a request for object ids, or by
them, has no page.
-/

namespace GeoLayers

open Database

/-- The rows that are left of those of a statement when its page is cut out of them. A negative
number is refused. -/
def Statement.cut {α : Type} (s : Statement) (rows : List α) : Option (List α) :=
  let rest := rows.drop (s.offset?.getD 0).toNat
  if s.offset?.any (· < 0) || s.limit?.any (· < 0) then none
  else some (s.limit?.elim rest fun limit => rest.take limit.toNat)

/-- A request with another limit and another start. -/
def QueryRequest.withPage (request : QueryRequest) (limit offset : Int) : QueryRequest :=
  { request with limit, offset }

/-- A database answers a request, whatever its limit and its start, with the page of a single row. -/
def ServesRow {σ : Type} (responder : Responder σ) (layer : Layer) (catalog : Catalog)
    (request : QueryRequest) (row : Members) : Prop :=
  ∀ limit offset s, compile layer catalog (request.withPage limit offset) = .ok s →
    ∀ rows, s.cut [row] = some rows →
      ∀ state, (responder.reply (.run s.asJsonRows [.json]) state).1 = rowsReply rows

/-- A limit leaves a single row there, and a start passes over it. -/
theorem Statement.cut_singleton {α : Type} {s : Statement} (hlimit : ∀ n ∈ s.limit?, 1 ≤ n)
    (hoffset : ∀ n ∈ s.offset?, 0 < n) (only : α) :
    s.cut [only] = some (if s.offset? = none then [only] else []) := by
  have hrefused : (s.offset?.any (· < 0) || s.limit?.any (· < 0)) = false := by
    rw [Bool.or_eq_false_iff, Option.any_eq_false, Option.any_eq_false]
    constructor
    · intro n hn
      simpa using Int.le_of_lt (hoffset n hn)
    · intro n hn
      have hone := hlimit n hn
      simp
      omega
  have hrest : [only].drop (s.offset?.getD 0).toNat = if s.offset? = none then [only] else [] := by
    cases hstart : s.offset? with
    | none => rfl
    | some n =>
        have hpos := hoffset n hstart
        rw [if_neg nofun]
        apply List.drop_eq_nil_of_le
        rw [List.length_singleton, Option.getD_some]
        omega
  have htake (rest : List α) (hle : rest.length ≤ 1) :
      (s.limit?.elim rest fun limit => rest.take limit.toNat) = rest := by
    cases hsize : s.limit? with
    | none => rfl
    | some n =>
        have hone := hlimit n hsize
        exact List.take_of_length_le (by omega)
  rw [cut, hrefused, hrest, if_neg Bool.false_ne_true, htake]
  split <;> simp

variable {σ : Type} {responder : Responder σ} {layer : Layer} {catalog : Catalog}
  {request : QueryRequest} {row : Members} {s : Statement}

/-- Whether a query is accepted does not depend on its page. -/
theorem exists_compile_withPage (h : compile layer catalog request = .ok s) (limit offset : Int) :
    ∃ s', compile layer catalog (request.withPage limit offset) = .ok s' := by
  obtain ⟨plan, hplan, -⟩ := exists_ok_of_bind h
  have hother : Plan.make layer catalog (request.withPage limit offset) = .ok plan := hplan
  exact ⟨_, Plan.compile_of_make hother⟩

/-- A statement passes over no row exactly if its request has no page or starts with the first
row. -/
theorem offset?_eq_none_iff (h : compile layer catalog request = .ok s) :
    s.offset? = none ↔ request.isPaged = false ∨ request.offset ≤ 0 := by
  rw [offset?_of_compile h]
  cases request.isPaged <;> simp

/-- What is left of a single row in the page of a request. -/
theorem cut_of_compile {α : Type} (h : compile layer catalog request = .ok s)
    (hword : request.isPaged = false ∨ request.limit < Number.maxInt64) (only : α) :
    s.cut [only] = some (if s.offset? = none then [only] else []) := by
  apply Statement.cut_singleton
  · intro n hn
    rw [limit?_of_compile h, Option.mem_def, Option.map_eq_some_iff] at hn
    obtain ⟨limit, hlimit, rfl⟩ := hn
    obtain ⟨hpaged, hpos, rfl⟩ := QueryRequest.pageLimit?_eq_some.1 hlimit
    have hfits := hword.resolve_left (by rw [hpaged]; decide)
    rw [Number.wrapInt64_add_one (Int.le_of_lt hpos) hfits]
    omega
  · intro n hn
    rw [offset?_of_compile h, Option.mem_def, Option.ite_none_right_eq_some, Bool.and_eq_true,
      decide_eq_true_iff] at hn
    obtain ⟨⟨-, hpos⟩, heq⟩ := hn
    exact Option.some.inj heq ▸ hpos

/-- A page that has room for a row keeps the only one. -/
theorem Page.rows_ofRows_of_length_le_one {rows : List Attributes} (hle : rows.length ≤ 1) :
    (Page.ofRows request.pageLimit? rows).rows = rows := by
  unfold Page.ofRows
  cases hlimit : request.pageLimit? with
  | none => rfl
  | some limit =>
      have hpos := (QueryRequest.pageLimit?_eq_some.1 hlimit).2.1
      exact congrArg Page.rows (if_neg (by omega))

/-- A request for the number is answered with the row, or with an empty object if its statement passes
over the row. -/
theorem value_count (h : compile layer catalog request = .ok s) (hids : request.idsOnly = false)
    (hcount : request.countOnly = true)
    (hword : request.isPaged = false ∨ request.limit < Number.maxInt64) {state : σ}
    (hreply : ∀ rows, s.cut [row] = some rows →
      (responder.reply (.run s.asJsonRows [.json]) state).1 = rowsReply rows)
    (reference : SpatialReference) :
    (Session.run responder (ExceptT.run
      (requestAnswer layer catalog reference request)) state).value =
        .ok (.count (if s.offset? = none then .ofList row else .empty)) := by
  have hanswer (page : Page) : QueryAnswer.ofPage layer catalog reference request page =
      .ok (.count (page.rows.headD .empty)) := by
    rw [QueryAnswer.ofPage, hids, hcount]
    rfl
  rw [value_requestAnswer reference h (hreply _ (cut_of_compile h hword row)), hanswer,
    Page.rows_ofRows_of_length_le_one]
  · split <;> rfl
  · rw [List.length_map]
    split <;> simp

/-- The number of features is answered exactly if the statement passes over no row. That depends on
nothing but the object ids and the start of the request: without object ids, a start that is not the
first row passes over the number, and an empty object is answered. -/
theorem count_passed_over (h : compile layer catalog request = .ok s)
    (hids : request.idsOnly = false) (hcount : request.countOnly = true)
    (hserves : ServesRow responder layer catalog request row) (limit offset : Int) :
    ∃ s, compile layer catalog (request.withPage limit offset) = .ok s ∧
      (s.offset? = none ↔ request.objectIds ≠ [] ∨ offset ≤ 0) ∧
      (request.objectIds ≠ [] ∨ limit < Number.maxInt64 → ∀ (reference : SpatialReference) (state : σ),
        (Session.run responder (ExceptT.run
          (requestAnswer layer catalog reference (request.withPage limit offset))) state).value =
            .ok (.count (if request.objectIds ≠ [] ∨ offset ≤ 0 then .ofList row else .empty))) := by
  obtain ⟨s, hcompile⟩ := exists_compile_withPage h limit offset
  have hpaged : (request.withPage limit offset).isPaged = false ↔ request.objectIds ≠ [] := by
    rw [QueryRequest.isPaged, QueryRequest.withPage, hids]
    simp
  have hstart : s.offset? = none ↔ request.objectIds ≠ [] ∨ offset ≤ 0 := by
    rw [← hpaged]
    exact offset?_eq_none_iff hcompile
  refine ⟨s, hcompile, hstart, fun hword reference state => ?_⟩
  have hreply := fun rows hcut => hserves limit offset s hcompile rows hcut state
  rw [value_count hcompile hids hcount (hword.imp_left hpaged.2) hreply]
  simp only [hstart]

/-- A database that answers every query with the page of one row. -/
def rowServer (row : Members) : Responder Unit where
  connect _ := (true, ())
  reply command _ :=
    match command with
    | .run statement _ =>
      (((statement.ofJsonRows?.bind fun s => s.cut [row]).map rowsReply).getD (.ok {}), ())
    | _ => (.ok {}, ())

theorem servesRow_rowServer (layer : Layer) (catalog : Catalog) (request : QueryRequest)
    (row : Members) : ServesRow (rowServer row) layer catalog request row := by
  intro limit offset s _ rows hcut state
  change ((s.asJsonRows.ofJsonRows?.bind fun s => s.cut [row]).map rowsReply).getD (.ok {}) = _
  rw [Statement.ofJsonRows?_asJsonRows, Option.bind_some, hcut]
  rfl

/-- The request for the number of all wells. -/
def wellCount : QueryRequest where
  countOnly := true

theorem count_passed_over_wells :
    ∃ s, compile Join.wells Join.wellsCatalog wellCount = .ok s ∧
      wellCount.idsOnly = false ∧ wellCount.countOnly = true ∧
      ServesRow (rowServer [("count", .integer 3)]) Join.wells Join.wellsCatalog wellCount
        [("count", .integer 3)] ∧
      ∃ s, compile Join.wells Join.wellsCatalog (wellCount.withPage 10 0) = .ok s ∧
        s.offset? = none ∧
        (Session.run (rowServer [("count", .integer 3)]) (ExceptT.run (requestAnswer Join.wells
          Join.wellsCatalog default (wellCount.withPage 10 0))) ()).value =
            .ok (.count (.ofList [("count", .integer 3)])) := by
  have hok : (compile Join.wells Join.wellsCatalog wellCount).isOk = true := by decide +kernel
  obtain ⟨s, hcompile⟩ := exists_ok_of_isOk hok
  have hserves := servesRow_rowServer Join.wells Join.wellsCatalog wellCount
    [("count", .integer 3)]
  obtain ⟨s', hcompile', hstart, hanswer⟩ := count_passed_over hcompile rfl rfl hserves 10 0
  exact ⟨s, hcompile, rfl, rfl, hserves, s', hcompile', hstart.2 (.inr le_rfl),
    hanswer (.inr (by decide)) default ()⟩

/-- A request for the number of all wells that starts with the sixth row passes over it. -/
theorem count_of_later_page_empty :
    let server := rowServer [("count", .integer 3)]
    let request := wellCount.withPage 10 5
    ServesRow server Join.wells Join.wellsCatalog wellCount [("count", .integer 3)] ∧
      ∃ s, compile Join.wells Join.wellsCatalog request = .ok s ∧ s.offset? = some 5 ∧
        (Session.run server (ExceptT.run
          (requestAnswer Join.wells Join.wellsCatalog default request)) ()).value =
            .ok (.count .empty) := by
  intro server request
  have hserves := servesRow_rowServer Join.wells Join.wellsCatalog wellCount
    [("count", .integer 3)]
  have hok : (compile Join.wells Join.wellsCatalog request).isOk = true := by decide +kernel
  obtain ⟨s, hcompile⟩ := exists_ok_of_isOk hok
  have hstart : s.offset? = some 5 := offset?_of_compile hcompile
  have hvalue := value_count hcompile rfl rfl (.inr (by decide))
    (fun rows hcut => hserves 10 5 s hcompile rows hcut ()) default
  rw [hstart, if_neg nofun] at hvalue
  exact ⟨hserves, s, hcompile, hstart, hvalue⟩

end GeoLayers
