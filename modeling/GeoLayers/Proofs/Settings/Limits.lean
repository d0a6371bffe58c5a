import GeoLayers.Proofs.Query.Assembly
import GeoLayers.Proofs.Query.Names
import GeoLayers.Proofs.Query.PageClause
import GeoLayers.Settings.Environment

/-!
Limits on their way from the environment and from a client to the statement. Both are words of 64
bits. The environment's are brought in order, the client's is cut to the maximum, and so every page
has at least one row and at most as many as the settings allow. The statement asks for one row more,
and that is one too many where the limit is the highest word.
-/

namespace GeoLayers

namespace Number

theorem bounds_of_int64? {text : String} {n : Int} (h : int64? text = some n) :
    minInt64 ≤ n ∧ n ≤ maxInt64 := by
  have hlast {read : Option Int} (h : (read.bind fun m =>
      if minInt64 ≤ m ∧ m ≤ maxInt64 then some m else none) = some n) :
      minInt64 ≤ n ∧ n ≤ maxInt64 := by
    obtain ⟨m, -, hm⟩ := Option.bind_eq_some_iff.1 h
    rw [Option.ite_none_right_eq_some] at hm
    obtain ⟨hbounds, heq⟩ := hm
    exact Option.some.inj heq ▸ hbounds
  unfold int64? intWithin? at h
  dsimp only at h
  split at h
  · exact hlast h
  · rw [if_pos (by decide)] at h
    exact hlast h
  · exact hlast h

end Number

/-- Limits that are in order: there is a default, and it is allowed. -/
structure Settings.Ordered (settings : Settings) : Prop where
  one_le_default : 1 ≤ settings.defaultLimit
  default_le_max : settings.defaultLimit ≤ settings.maxLimit
  max_le : settings.maxLimit ≤ Number.maxInt64

namespace Environment

theorem getD_le_of_number? {env : Environment} {name : String} {value : Option Int}
    (h : env.number? Number.int64? name = some value) {usual : Int}
    (husual : usual ≤ Number.maxInt64) : value.getD usual ≤ Number.maxInt64 := by
  unfold number? at h
  obtain ⟨text, -, h⟩ := Option.bind_eq_some_iff.1 h
  cases text with
  | none =>
      obtain rfl := Option.some.inj h
      exact husual
  | some text =>
      obtain ⟨n, hread, rfl⟩ := Option.map_eq_some_iff.1 h
      exact (Number.bounds_of_int64? hread).2

/-- Whatever limits the environment has, they are brought in order. -/
theorem ordered_withLimits {settings : Settings} {usual most : Option Int}
    (husual : usual.getD settings.defaultLimit ≤ Number.maxInt64)
    (hmost : most.getD settings.maxLimit ≤ Number.maxInt64) :
    (withLimits settings usual most).Ordered := by
  have hdefault : max (usual.getD settings.defaultLimit) 1 ≤ Number.maxInt64 :=
    Int.max_le.2 ⟨husual, by decide⟩
  have hmax : max (most.getD settings.maxLimit) (max (usual.getD settings.defaultLimit) 1) ≤
      Number.maxInt64 := Int.max_le.2 ⟨hmost, hdefault⟩
  exact ⟨Int.le_max_right _ _, Int.le_max_right _ _, hmax⟩

theorem ordered_of_raw? {env : Environment} {raw : Raw} (h : env.raw? = some raw) :
    raw.settings.Ordered := by
  have hinitial : (10000 : Int) ≤ Number.maxInt64 := by decide
  unfold raw? at h
  obtain ⟨address, -, h⟩ := Option.bind_eq_some_iff.1 h
  obtain ⟨host, -, h⟩ := Option.bind_eq_some_iff.1 h
  obtain ⟨port, -, h⟩ := Option.bind_eq_some_iff.1 h
  obtain ⟨ownUrl, -, h⟩ := Option.bind_eq_some_iff.1 h
  obtain ⟨commonUrl, -, h⟩ := Option.bind_eq_some_iff.1 h
  obtain ⟨poolSize, -, h⟩ := Option.bind_eq_some_iff.1 h
  obtain ⟨root, -, h⟩ := Option.bind_eq_some_iff.1 h
  obtain ⟨certificate, -, h⟩ := Option.bind_eq_some_iff.1 h
  obtain ⟨key, -, h⟩ := Option.bind_eq_some_iff.1 h
  obtain ⟨apiKey, -, h⟩ := Option.bind_eq_some_iff.1 h
  obtain ⟨registryPath, -, h⟩ := Option.bind_eq_some_iff.1 h
  obtain ⟨usual, husual, h⟩ := Option.bind_eq_some_iff.1 h
  obtain ⟨most, hmost, h⟩ := Option.bind_eq_some_iff.1 h
  obtain ⟨timeout, -, h⟩ := Option.bind_eq_some_iff.1 h
  obtain rfl := Option.some.inj h
  exact ordered_withLimits (getD_le_of_number? husual hinitial) (getD_le_of_number? hmost hinitial)

/-- The limits in the settings of a service are in order. -/
theorem ordered_of_settings {env : Environment} {settings : Settings}
    (h : env.settings = .ok settings) : settings.Ordered := by
  unfold Environment.settings at h
  cases hraw : env.raw? with
  | none =>
      rw [hraw] at h
      cases h
  | some raw =>
      obtain ⟨hone, hle, hmax⟩ := ordered_of_raw? hraw
      rw [hraw] at h
      dsimp only at h
      cases haddress : listenAddress raw with
      | error fault =>
          rw [haddress] at h
          cases h
      | ok address =>
          rw [haddress] at h
          dsimp only [bind, Except.bind] at h
          cases hurl : raw.databaseUrl with
          | none =>
              rw [hurl] at h
              cases h
          | some url =>
              rw [hurl] at h
              obtain rfl := Except.ok.inj h
              exact ⟨hone, hle, hmax⟩

end Environment

/-- A page has at least one row, and at most as many as the settings allow. -/
theorem Settings.Ordered.effectiveLimit {settings : Settings} (h : settings.Ordered)
    (requested : Option Int) :
    1 ≤ settings.effectiveLimit requested ∧ settings.effectiveLimit requested ≤ settings.maxLimit := by
  obtain ⟨hone, hle, -⟩ := h
  unfold Settings.effectiveLimit
  split
  · split <;> omega
  · exact ⟨hone, hle⟩

variable {settings : Settings} {p : QueryParameters} {request : QueryRequest}

/-- The limit and the start of a request with pages are within their bounds, and another request has
none. -/
theorem page_of_toRequest (hsettings : settings.Ordered) (h : p.toRequest settings = .ok request) :
    (request.isPaged = true →
      1 ≤ request.limit ∧ request.limit ≤ settings.maxLimit ∧ 0 ≤ request.offset) ∧
    (request.isPaged = false → request.limit = 0 ∧ request.offset = 0) := by
  have hpage := (gives_of_toRequest h).page
  have hcond : (request.idsOnly || !request.objectIds.isEmpty) = !request.isPaged := by
    simp [QueryRequest.isPaged]
  unfold QueryParameters.paging at hpage
  rw [hcond] at hpage
  cases hpaged : request.isPaged with
  | false =>
      rw [hpaged] at hpage
      obtain ⟨hlimit, hoffset⟩ := Prod.mk.inj (Except.ok.inj hpage)
      exact ⟨fun hfalse => absurd hfalse Bool.false_ne_true, fun _ => ⟨hlimit.symm, hoffset.symm⟩⟩
  | true =>
      rw [hpaged] at hpage
      obtain ⟨limit, -, hpage⟩ := exists_ok_of_bind hpage
      obtain ⟨offset, -, hpage⟩ := exists_ok_of_bind hpage
      obtain ⟨hlimit, hoffset⟩ := Prod.mk.inj (Except.ok.inj hpage)
      obtain ⟨hone, hmax⟩ := hsettings.effectiveLimit limit
      refine ⟨fun _ => ⟨hlimit ▸ hone, hlimit ▸ hmax, hoffset ▸ Int.le_max_right _ _⟩, ?_⟩
      exact fun hfalse => absurd hfalse.symm Bool.false_ne_true

/-- The page that a statement binds for a limit and a start: the start as it is, and words of 64 bits
of which the first is the limit with one row more, unless the limit is the highest word. -/
structure Statement.BindsPage (s : Statement) (paged : Bool) (limit offset : Int) : Prop where
  isSome_limit? : s.limit?.isSome = true ↔ paged = true ∧ 0 < limit
  limit? : ∀ n ∈ s.limit?, Number.minInt64 ≤ n ∧ n ≤ Number.maxInt64 ∧
    (n = limit + 1 ↔ limit < Number.maxInt64)
  offset? : s.offset? = if paged = true ∧ 0 < offset then some offset else none

/-- A statement binds the page of its request. -/
theorem bindsPage_of_compile {layer : Layer} {catalog : Catalog} {s : Statement}
    (h : compile layer catalog request = .ok s) (hlimit : request.limit ≤ Number.maxInt64) :
    s.BindsPage request.isPaged request.limit request.offset where
  isSome_limit? := by
    rw [limit?_of_compile h, Option.isSome_map, QueryRequest.pageLimit?]
    split
    case isTrue hlimited => simpa using hlimited
    case isFalse hnone => simpa using hnone
  limit? n hn := by
    rw [limit?_of_compile h, Option.mem_def, Option.map_eq_some_iff] at hn
    obtain ⟨limit, hpage, rfl⟩ := hn
    obtain ⟨-, hpos, rfl⟩ := QueryRequest.pageLimit?_eq_some.1 hpage
    rcases Int.lt_or_eq_of_le hlimit with hless | heq
    · rw [Number.wrapInt64_add_one (Int.le_of_lt hpos) hless]
      unfold Number.minInt64
      omega
    · rw [heq, Number.wrapInt64_maxInt64_add_one]
      decide
  offset? := by
    rw [offset?_of_compile h]
    simp

/-- The limits of a service are in range, from the environment to the statements. Every request that
parameters ask for has a page within the limits of the settings, or none; and every statement that is
written for this page binds its start and one row more than its limit. Only a limit that is the
highest word of 64 bits, which the settings can allow, turns into the lowest. -/
theorem limits_in_range {env : Environment} (hsettings : env.settings = .ok settings)
    (h : p.toRequest settings = .ok request) :
    (request.isPaged = true →
      1 ≤ request.limit ∧ request.limit ≤ settings.maxLimit ∧ 0 ≤ request.offset) ∧
    (request.isPaged = false → request.limit = 0 ∧ request.offset = 0) ∧
    ∀ (layer : Layer) (catalog : Catalog) (other : QueryRequest) (s : Statement),
      other.limit = request.limit → other.offset = request.offset →
        compile layer catalog other = .ok s →
          s.BindsPage other.isPaged request.limit request.offset := by
  have hordered := Environment.ordered_of_settings hsettings
  obtain ⟨hpaged, hunpaged⟩ := page_of_toRequest hordered h
  refine ⟨hpaged, hunpaged, ?_⟩
  intro layer catalog other s hlimit hoffset hcompile
  rw [← hlimit, ← hoffset]
  apply bindsPage_of_compile hcompile
  rw [hlimit]
  cases hrequest : request.isPaged with
  | true => exact Int.le_trans (hpaged hrequest).2.1 hordered.max_le
  | false =>
      rw [(hunpaged hrequest).1]
      decide

/-- The environment of a service whose limit is the highest word of 64 bits. -/
def unlimitedService : Environment :=
  [("DATABASE_URL", "postgres://localhost/wells"), ("FEATURESERV_MAX_LIMIT", "9223372036854775807")]

/-- Its settings. -/
def unlimited : Settings where
  databaseUrl := "postgres://localhost/wells"
  maxLimit := Number.maxInt64

theorem settings_unlimitedService : unlimitedService.settings = .ok unlimited :=
  eq_ok_of_toOption (by decide +kernel)

/-- A query for the sites of so many wells. -/
def manyWells (limit : String) : QueryParameters where
  outFields := some "site_id"
  limit := some limit

/-- The size of the page of a query of the wells, if the service answers it. -/
def pageSize? (settings : Settings) (p : QueryParameters) : Option Int := do
  let request ← (p.toRequest settings).toOption
  let _ ← (Plan.make Join.wells Join.wellsCatalog request).toOption
  request.pageLimit?

theorem exists_of_pageSize? {limit : Int} (h : pageSize? settings p = some limit) :
    ∃ request s, p.toRequest settings = .ok request ∧
      compile Join.wells Join.wellsCatalog request = .ok s ∧ request.limit = limit ∧
      s.limit? = some (Number.wrapInt64 (limit + 1)) := by
  obtain ⟨request, hrequest, h⟩ := Option.bind_eq_some_iff.1 h
  obtain ⟨plan, hplan, hpage⟩ := Option.bind_eq_some_iff.1 h
  have hcompile := Plan.compile_of_make (eq_ok_of_toOption hplan)
  refine ⟨request, _, eq_ok_of_toOption hrequest, hcompile,
    (QueryRequest.pageLimit?_eq_some.1 hpage).2.2, ?_⟩
  rw [limit?_of_compile hcompile, hpage]
  rfl

theorem limits_in_range_wells :
    unlimitedService.settings = .ok unlimited ∧
      ∃ request s, (manyWells "500").toRequest unlimited = .ok request ∧
        compile Join.wells Join.wellsCatalog request = .ok s ∧
        request.limit = 500 ∧ s.limit? = some 501 ∧
        (request.isPaged = true →
          1 ≤ request.limit ∧ request.limit ≤ unlimited.maxLimit ∧ 0 ≤ request.offset) ∧
        (request.isPaged = false → request.limit = 0 ∧ request.offset = 0) ∧
        s.BindsPage request.isPaged request.limit request.offset := by
  have hsettings := settings_unlimitedService
  have hsize : pageSize? unlimited (manyWells "500") = some 500 := by decide +kernel
  obtain ⟨request, s, hrequest, hcompile, hlimit, hbound⟩ := exists_of_pageSize? hsize
  obtain ⟨hpaged, hunpaged, hbinds⟩ := limits_in_range hsettings hrequest
  exact ⟨hsettings, request, s, hrequest, hcompile, hlimit, hbound, hpaged, hunpaged,
    hbinds Join.wells Join.wellsCatalog request s rfl rfl hcompile⟩

/-- A client that asks for as many wells as the settings allow binds the lowest word. -/
theorem highest_limit_overflows :
    unlimitedService.settings = .ok unlimited ∧
      ∃ request s, (manyWells "9223372036854775807").toRequest unlimited = .ok request ∧
        compile Join.wells Join.wellsCatalog request = .ok s ∧
        request.limit = Number.maxInt64 ∧ s.limit? = some Number.minInt64 := by
  have hsize : pageSize? unlimited (manyWells "9223372036854775807") = some Number.maxInt64 := by
    decide +kernel
  exact ⟨settings_unlimitedService, exists_of_pageSize? hsize⟩

end GeoLayers
