import GeoLayers.Proofs.Query.Plan
import GeoLayers.Query.Parameters
import Mathlib.Data.List.DropRight

/-!
The names in the request that parameters are read as. A name is stripped of blanks and quotes once
for the request and once more for the statement; after that another time changes nothing, so that a
name that is written is the name that was checked.
-/

namespace GeoLayers

namespace Text

theorem trimStart_eq_self {cs : List Char} (h : ∀ c, cs.head? = some c → isBlank c = false) :
    trimStart cs = cs := by
  cases cs with
  | nil => rfl
  | cons c cs => exact List.dropWhile_cons_of_neg (by simpa using h c rfl)

/-- Blanks are dropped at once. -/
theorem trimChars_trimChars (cs : List Char) : trimChars (trimChars cs) = trimChars cs := by
  have hstart : trimStart (trimChars cs) = trimChars cs := by
    apply trimStart_eq_self
    intro c hc
    obtain ⟨rest, hrest⟩ : trimChars cs <+: trimStart cs := List.rdropWhile_prefix _ _
    have hhead : (cs.dropWhile isBlank).head? = some c := by
      change (trimStart cs).head? = some c
      rw [← hrest, List.head?_append, hc]
      rfl
    have hnot := List.head?_dropWhile_not isBlank cs
    rw [hhead] at hnot
    exact hnot
  rw [trimChars, hstart]
  exact List.rdropWhile_idempotent _ _

theorem mem_of_mem_trimChars {cs : List Char} {c : Char} (h : c ∈ trimChars cs) : c ∈ cs :=
  (List.dropWhile_suffix isBlank).subset ((List.rdropWhile_prefix isBlank (trimStart cs)).subset h)

/-- What neither starts nor ends with a blank is not trimmed. -/
theorem trimChars_eq_self {cs : List Char} (hstart : ∀ c, cs.head? = some c → isBlank c = false)
    (hend : ∀ c, cs.getLast? = some c → isBlank c = false) : trimChars cs = cs := by
  have hreverse : trimStart cs.reverse = cs.reverse := by
    apply trimStart_eq_self
    intro c hc
    rw [List.head?_reverse] at hc
    exact hend c hc
  rw [trimChars, trimStart_eq_self hstart]
  change (trimStart cs.reverse).reverse = cs
  rw [hreverse, List.reverse_reverse]

theorem trimChars_of_notBlank {cs : List Char} (h : ∀ c ∈ cs, isBlank c = false) :
    trimChars cs = cs :=
  trimChars_eq_self (fun c hc => h c (List.mem_of_head? hc))
    fun c hc => h c (List.mem_of_getLast? hc)

theorem stop_of_mem_splitWhen {stop : Char → Bool} {cs part : List Char} (h : part ∈ splitWhen stop cs)
    {c : Char} (hc : c ∈ part) : stop c = false := by
  induction cs generalizing part with
  | nil =>
      obtain rfl := List.mem_singleton.1 h
      cases hc
  | cons d cs ih =>
      rw [splitWhen] at h
      split at h
      case isTrue =>
        rcases List.mem_cons.1 h with rfl | h
        · cases hc
        · exact ih h hc
      case isFalse hd =>
        split at h
        case h_1 hnone => exact absurd hnone (splitWhen_ne_nil stop cs)
        case h_2 first parts hsplit =>
          rw [hsplit] at ih
          rcases List.mem_cons.1 h with rfl | h
          · rcases List.mem_cons.1 hc with rfl | hc
            · simpa using hd
            · exact ih List.mem_cons_self hc
          · exact ih (List.mem_cons_of_mem first h) hc

/-- There are no blanks in words. -/
theorem notBlank_of_mem_words {raw word : String} (h : word ∈ words raw) {c : Char}
    (hc : c ∈ word.toList) : isBlank c = false := by
  obtain ⟨part, hpart, rfl⟩ := List.mem_map.1 h
  rw [String.toList_ofList] at hc
  exact stop_of_mem_splitWhen (List.mem_filter.1 hpart).1 hc

end Text

/-- A name that is there and in which nothing is passed over when it is looked up. -/
structure IsBare (name : String) : Prop where
  fixed : bareName name = name
  nonempty : name ≠ ""

theorem mem_of_mem_bareName {raw : String} {c : Char} (h : c ∈ (bareName raw).toList) :
    c ∈ raw.toList := by
  rw [bareName, String.toList_ofList] at h
  exact Text.mem_of_mem_trimChars (List.mem_filter.1 h).1

theorem notMem_bareName (raw : String) : '"' ∉ (bareName raw).toList := by
  rw [bareName, String.toList_ofList]
  intro hmem
  simpa using (List.mem_filter.1 hmem).2

/-- Nothing is passed over in a name without quotes and without blanks around it. -/
theorem bareName_eq_self {name : String} (hblank : Text.trimChars name.toList = name.toList)
    (hquote : '"' ∉ name.toList) : bareName name = name := by
  have hall : name.toList.filter (· != '"') = name.toList := by
    rw [List.filter_eq_self]
    intro c hc
    rw [bne_iff_ne]
    rintro rfl
    exact hquote hc
  rw [bareName, hblank, hall, String.ofList_toList]

/-- A name that was stripped twice cannot be stripped further. -/
theorem bareName_twice (raw : String) :
    bareName (bareName (bareName raw)) = bareName (bareName raw) := by
  have htrimmed : (bareName (bareName raw)).toList = Text.trimChars (bareName raw).toList := by
    rw [bareName, String.toList_ofList, List.filter_eq_self]
    intro c hc
    rw [bne_iff_ne]
    rintro rfl
    exact notMem_bareName raw (Text.mem_of_mem_trimChars hc)
  apply bareName_eq_self _ (notMem_bareName _)
  rw [htrimmed, Text.trimChars_trimChars]

theorem SortField.isBare_of_ofText? {raw : String} {field : SortField}
    (h : SortField.ofText? raw = some field) : IsBare field.name := by
  unfold ofText? at h
  split at h
  case h_1 => cases h
  case h_2 first rest hwords =>
    have hfirst : first ∈ Text.words raw := by
      rw [hwords]
      exact List.mem_cons_self
    have hblank : ∀ c ∈ (bareName first).toList, Text.isBlank c = false := fun c hc =>
      Text.notBlank_of_mem_words hfirst (mem_of_mem_bareName hc)
    dsimp only at h
    split at h
    case isTrue => cases h
    case isFalse hempty =>
      obtain rfl := Option.some.inj h
      refine ⟨bareName_eq_self (Text.trimChars_of_notBlank hblank) (notMem_bareName first), ?_⟩
      simpa using hempty

variable {p : QueryParameters} {settings : Settings} {request : QueryRequest}

/-- What a request has from the parameters that were read for it. -/
structure QueryParameters.Gives (p : QueryParameters) (settings : Settings)
    (request : QueryRequest) : Prop where
  fields : request.fields = (Parameter.listItems p.outFields).map bareName
  sort : request.sort = (Parameter.listItems p.orderByFields).filterMap SortField.ofText?
  page : p.paging settings request.idsOnly request.objectIds = .ok (request.limit, request.offset)

theorem gives_of_toRequest (h : p.toRequest settings = .ok request) : p.Gives settings request := by
  unfold QueryParameters.toRequest at h
  obtain ⟨ids, -, h⟩ := exists_ok_of_bind h
  obtain ⟨⟨limit, offset⟩, hpage, h⟩ := exists_ok_of_bind h
  obtain ⟨extent, -, h⟩ := exists_ok_of_bind h
  have hlast {time : Option TimeRange} (h : (do
      let outSrid ← Parameter.outSrid p.outSR
      pure {
        fields := (Parameter.listItems p.outFields).map bareName
        clause := Parameter.nonBlank p.clause
        sort := (Parameter.listItems p.orderByFields).filterMap SortField.ofText?
        objectIds := ids
        extent, time, outSrid, limit, offset
        idsOnly := Parameter.flag p.returnIdsOnly false
        countOnly := Parameter.flag p.returnCountOnly false
        withGeometry := Parameter.flag p.returnGeometry true } : Except Error QueryRequest) =
          .ok request) : p.Gives settings request := by
    obtain ⟨srid, -, h⟩ := exists_ok_of_bind h
    obtain rfl := Except.ok.inj h
    exact ⟨rfl, rfl, hpage⟩
  cases htime : p.time with
  | none =>
      rw [htime] at h
      exact hlast h
  | some raw =>
      rw [htime] at h
      obtain ⟨time, -, h⟩ := exists_ok_of_bind h
      exact hlast h

/-- The fields that a request from parameters asks for are bare names. -/
theorem isBare_of_mem_requestedFields (h : p.toRequest settings = .ok request) {name : String}
    (hmem : name ∈ Plan.requestedFields request) : IsBare name := by
  unfold Plan.requestedFields at hmem
  split at hmem
  case h_1 =>
    obtain rfl := List.mem_singleton.1 hmem
    exact ⟨by decide, by decide⟩
  case h_2 =>
    obtain ⟨hname, hne⟩ := List.mem_filter.1 hmem
    rw [(gives_of_toRequest h).fields, List.map_map] at hname
    obtain ⟨raw, -, rfl⟩ := List.mem_map.1 hname
    exact ⟨bareName_twice raw, by simpa using hne⟩

theorem isBare_of_mem_sort (h : p.toRequest settings = .ok request) {field : SortField}
    (hmem : field ∈ request.sort) : IsBare field.name := by
  rw [(gives_of_toRequest h).sort] at hmem
  obtain ⟨raw, -, hfield⟩ := List.mem_filterMap.1 hmem
  exact SortField.isBare_of_ofText? hfield

end GeoLayers
