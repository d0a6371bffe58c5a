import GeoLayers.Proofs.Where.Acceptance
import GeoLayers.Query.Compile
import Mathlib.Data.List.Forall2

/-!
What the values of a request do to its statement. The object ids, the time, the extent, the reference
system, the size of the page and its start are bound, so that two requests that differ in these
values alone get statements with one text. The two statements are built in lockstep: piece by piece
they have the same text or bind the same value, each from its own request.
-/

namespace GeoLayers

open Statement (Piece)

/-- A value of a request that its statement binds. -/
inductive BoundValue where
  | outSrid
  | timeStart
  | timeStop
  | objectId (place : Nat)
  | extent
  | limit
  | offset
  deriving DecidableEq, Repr

namespace QueryRequest

/-- The parameter that stands for a value of a request. -/
def bindOf (request : QueryRequest) : BoundValue → Bind
  | .outSrid => .int request.outSrid
  | .timeStart => .timestamp (request.time.getD default).start
  | .timeStop => .timestamp (request.time.getD default).stop
  | .objectId place => .bigInt (request.objectIds.getD place 0)
  | .extent => .text (request.extent.getD "")
  | .limit => .bigInt (Number.wrapInt64 (request.limit + 1))
  | .offset => .bigInt request.offset

theorem bindOf_limit {request : QueryRequest} (hpositive : 0 < request.limit)
    (hlimit : request.limit < Number.maxInt64) :
    request.bindOf .limit = .bigInt (request.limit + 1) := by
  rw [bindOf, Number.wrapInt64_add_one (Int.le_of_lt hpositive) hlimit]

/-- Requests that differ at most in the values of their object ids, times, extents and reference
systems, and of limits and offsets that are positive in both. -/
structure SameShape (a b : QueryRequest) : Prop where
  fields : a.fields = b.fields
  clause : a.clause = b.clause
  sort : a.sort = b.sort
  idsOnly : a.idsOnly = b.idsOnly
  countOnly : a.countOnly = b.countOnly
  withGeometry : a.withGeometry = b.withGeometry
  objectIds : a.objectIds.length = b.objectIds.length
  time : a.time.map TimeRange.isInstant = b.time.map TimeRange.isInstant
  extent : a.extent.isSome = b.extent.isSome
  limit : 0 < a.limit ↔ 0 < b.limit
  offset : 0 < a.offset ↔ 0 < b.offset

end QueryRequest

variable {a b : QueryRequest}

theorem Bind.kind_bindOf (a b : QueryRequest) (value : BoundValue) :
    (a.bindOf value).kind = (b.bindOf value).kind := by
  cases value <;> rfl

/-- Pieces with the same text, or with the parameters that stand for one value of two requests. -/
inductive Statement.Piece.Parallel (a b : QueryRequest) : Piece → Piece → Prop where
  | text (s : String) : Parallel a b (.text s) (.text s)
  | bind (value : BoundValue) : Parallel a b (.bind (a.bindOf value)) (.bind (b.bindOf value))

/-- Statements with one text whose parameters stand for the same values, in the same order. -/
structure Statement.Parallel (a b : QueryRequest) (s t : Statement) : Prop where
  sql : s.sql = t.sql
  binds : ∃ values : List BoundValue, s.binds = values.map a.bindOf ∧ t.binds = values.map b.bindOf

namespace Statement.Parallel

theorem length_binds {s t : Statement} (h : Parallel a b s t) :
    s.binds.length = t.binds.length := by
  obtain ⟨values, hs, ht⟩ := h.binds
  rw [hs, ht, List.length_map, List.length_map]

theorem kinds {s t : Statement} (h : Parallel a b s t) :
    s.binds.map Bind.kind = t.binds.map Bind.kind := by
  obtain ⟨values, hs, ht⟩ := h.binds
  rw [hs, ht, List.map_map, List.map_map]
  apply List.map_congr_left
  intro value _
  exact Bind.kind_bindOf a b value

/-- The number of a placeholder depends only on how many parameters there are already. -/
theorem add {s t : Statement} {p q : Piece} (h : Parallel a b s t) (hpq : Piece.Parallel a b p q) :
    Parallel a b (s.add p) (t.add q) := by
  cases hpq with
  | text text =>
      refine ⟨?_, h.binds⟩
      show s.sql ++ text = t.sql ++ text
      rw [h.sql]
  | bind value =>
      have hlength := h.length_binds
      obtain ⟨values, hs, ht⟩ := h.binds
      constructor
      · show s.sql ++ ("$" ++ toString (s.binds.length + 1)) =
          t.sql ++ ("$" ++ toString (t.binds.length + 1))
        rw [h.sql, hlength]
      · refine ⟨values ++ [value], ?_, ?_⟩
        · show s.binds ++ [a.bindOf value] = _
          rw [hs, List.map_append, List.map_singleton]
        · show t.binds ++ [b.bindOf value] = _
          rw [ht, List.map_append, List.map_singleton]

theorem foldl_add {ps qs : List Piece} (hpieces : List.Forall₂ (Piece.Parallel a b) ps qs)
    {s t : Statement} (h : Parallel a b s t) :
    Parallel a b (ps.foldl Statement.add s) (qs.foldl Statement.add t) := by
  induction hpieces generalizing s t with
  | nil => exact h
  | cons hpq _ ih => exact ih (h.add hpq)

theorem ofPieces {ps qs : List Piece} (hpieces : List.Forall₂ (Piece.Parallel a b) ps qs) :
    Parallel a b (Statement.ofPieces ps) (Statement.ofPieces qs) := by
  apply foldl_add hpieces
  exact ⟨rfl, [], rfl, rfl⟩

end Statement.Parallel

theorem Statement.between_parallel (sep : String) {xs ys : List (List Piece)}
    (h : List.Forall₂ (List.Forall₂ (Piece.Parallel a b)) xs ys) :
    List.Forall₂ (Piece.Parallel a b) (between sep xs) (between sep ys) := by
  induction h with
  | nil => exact .nil
  | cons hhead htail ih =>
      cases htail with
      | nil => exact hhead
      | cons => exact List.rel_append hhead (.cons (.text sep) ih)

namespace QueryRequest.SameShape

theorem includesRelated (h : a.SameShape b) : a.includesRelated = b.includesRelated := by
  have hlength := h.objectIds
  simp only [QueryRequest.includesRelated]
  cases ha : a.objectIds <;> cases hb : b.objectIds <;> simp_all

theorem isPaged (h : a.SameShape b) : a.isPaged = b.isPaged := by
  have hrelated := h.includesRelated
  simp only [QueryRequest.includesRelated] at hrelated
  rw [QueryRequest.isPaged, QueryRequest.isPaged, h.idsOnly, Bool.not_inj hrelated]

/-- What a query asks for is planned without a look at the values. -/
theorem make_eq (h : a.SameShape b) (layer : Layer) (catalog : Catalog) :
    Plan.make layer catalog a = Plan.make layer catalog b := by
  have hfields : Plan.requestedFields a = Plan.requestedFields b := by
    unfold Plan.requestedFields
    rw [h.fields]
  have hcheck (fields : List String) :
      Plan.checkFields catalog a fields = Plan.checkFields catalog b fields := by
    unfold Plan.checkFields
    rw [h.includesRelated, h.sort]
  unfold Plan.make
  simp only [hfields, hcheck, h.includesRelated, h.idsOnly, h.countOnly, h.withGeometry, h.sort]
  rw [h.clause]

/-- A text that does not depend on the request. -/
theorem texts (texts : List String) :
    List.Forall₂ (Piece.Parallel a b) (texts.map .text) (texts.map .text) := by
  induction texts with
  | nil => exact .nil
  | cons text texts ih => exact .cons (.text text) ih

theorem selection (layer : Layer) (projection : Projection) :
    List.Forall₂ (Piece.Parallel a b) (Plan.selection layer a projection)
      (Plan.selection layer b projection) := by
  cases projection with
  | count => exact .cons (.text _) .nil
  | ids => exact .cons (.text _) .nil
  | fields names geometry =>
      apply Statement.between_parallel
      apply List.rel_append
      · rw [List.forall₂_map_left_iff, List.forall₂_map_right_iff, List.forall₂_same]
        intro name _
        exact .cons (.text _) .nil
      · cases geometry with
        | false => exact .nil
        | true =>
            have hsrid : Piece.Parallel a b (.bind (.int a.outSrid)) (.bind (.int b.outSrid)) :=
              .bind .outSrid
            exact .cons (.cons (.text _) (.cons hsrid (.cons (.text _) .nil))) .nil

theorem timeCondition (h : a.SameShape b) (layer : Layer) (plan : Plan) :
    List.Forall₂ (Piece.Parallel a b) (Plan.timeCondition layer a plan)
      (Plan.timeCondition layer b plan) := by
  have htime := h.time
  unfold Plan.timeCondition
  cases layer.timeField? with
  | none => exact .nil
  | some field =>
      cases ha : a.time with
      | none =>
          have hb : b.time = none := by simpa [ha] using htime.symm
          simp only [hb]
          split
          · exact .cons (.text _) .nil
          · exact .nil
      | some range =>
          obtain ⟨other, hb, hinstant⟩ : ∃ other, b.time = some other ∧
              other.isInstant = range.isInstant := by simpa [ha] using htime.symm
          have hstart : Piece.Parallel a b (.bind (.timestamp range.start))
              (.bind (.timestamp other.start)) := by
            have hbind := Piece.Parallel.bind (a := a) (b := b) .timeStart
            simpa only [bindOf, ha, hb, Option.getD_some] using hbind
          have hstop : Piece.Parallel a b (.bind (.timestamp range.stop))
              (.bind (.timestamp other.stop)) := by
            have hbind := Piece.Parallel.bind (a := a) (b := b) .timeStop
            simpa only [bindOf, ha, hb, Option.getD_some] using hbind
          simp only [hb, hinstant]
          split
          · exact .cons (.text _) (.cons hstart (.cons (.text _) .nil))
          · exact .cons (.text _) (.cons hstart (.cons (.text _) (.cons hstop (.cons (.text _) .nil))))

/-- The object ids are bound one by one, each by its place in the request. -/
theorem objectIdBinds (h : a.SameShape b) :
    List.Forall₂ (List.Forall₂ (Piece.Parallel a b))
      (a.objectIds.map fun id => [.bind (.bigInt id)])
      (b.objectIds.map fun id => [.bind (.bigInt id)]) := by
  rw [List.forall₂_map_left_iff, List.forall₂_map_right_iff, List.forall₂_iff_get]
  refine ⟨h.objectIds, ?_⟩
  intro place ha hb
  have hbind := Piece.Parallel.bind (a := a) (b := b) (.objectId place)
  simp only [bindOf, List.getD_eq_getElem?_getD, List.getElem?_eq_getElem ha,
    List.getElem?_eq_getElem hb, Option.getD_some] at hbind
  exact .cons hbind .nil

theorem idCondition (h : a.SameShape b) (layer : Layer) :
    List.Forall₂ (Piece.Parallel a b) (Plan.idCondition layer a) (Plan.idCondition layer b) := by
  have hlength := h.objectIds
  have hbinds := Statement.between_parallel ", " h.objectIdBinds
  unfold Plan.idCondition
  cases ha : a.objectIds with
  | nil =>
      have hb : b.objectIds = [] := by simpa [ha] using hlength.symm
      rw [hb]
      exact .nil
  | cons id ids =>
      cases hb : b.objectIds with
      | nil => simp [ha, hb] at hlength
      | cons id' ids' =>
          rw [ha, hb] at hbinds
          exact .cons (.text _) (List.rel_append hbinds (.cons (.text _) .nil))

theorem extentCondition (h : a.SameShape b) (layer : Layer) :
    List.Forall₂ (Piece.Parallel a b) (Plan.extentCondition layer a)
      (Plan.extentCondition layer b) := by
  have hextent := h.extent
  unfold Plan.extentCondition
  cases ha : a.extent with
  | none =>
      have hb : b.extent = none := by simpa [ha] using hextent.symm
      rw [hb]
      exact .nil
  | some extent =>
      obtain ⟨other, hb⟩ : ∃ other, b.extent = some other := by
        rw [ha] at hextent
        exact Option.isSome_iff_exists.1 hextent.symm
      have hbind : Piece.Parallel a b (.bind (.text extent)) (.bind (.text other)) := by
        have hbind := Piece.Parallel.bind (a := a) (b := b) .extent
        simpa only [bindOf, ha, hb, Option.getD_some] using hbind
      rw [hb]
      exact .cons (.text _) (.cons hbind (.cons (.text _) .nil))

theorem limitPieces (h : a.SameShape b) :
    List.Forall₂ (Piece.Parallel a b) (Plan.limitPieces a) (Plan.limitPieces b) := by
  simp only [Plan.limitPieces, QueryRequest.pageLimit?, h.isPaged, h.limit]
  by_cases hpage : (b.isPaged && decide (0 < b.limit)) = true
  · rw [if_pos hpage, if_pos hpage]
    exact .cons (.text _) (.cons (.bind .limit) .nil)
  · rw [if_neg hpage, if_neg hpage]
    exact .nil

theorem offsetPieces (h : a.SameShape b) :
    List.Forall₂ (Piece.Parallel a b) (Plan.offsetPieces a) (Plan.offsetPieces b) := by
  simp only [Plan.offsetPieces, h.isPaged, h.offset]
  split
  · exact .cons (.text _) (.cons (.bind .offset) .nil)
  · exact .nil

theorem conditions (h : a.SameShape b) (layer : Layer) (plan : Plan) :
    List.Forall₂ (Piece.Parallel a b) (Plan.conditions layer a plan)
      (Plan.conditions layer b plan) := by
  unfold Plan.conditions
  apply List.rel_append _ (h.extentCondition layer)
  apply List.rel_append _ (h.idCondition layer)
  apply List.rel_append _ (h.timeCondition layer plan)
  apply List.Forall₂.cons (.text _)
  cases plan.condition with
  | none => exact .nil
  | some condition => exact .cons (.text _) .nil

theorem pieces (h : a.SameShape b) (layer : Layer) (plan : Plan) :
    List.Forall₂ (Piece.Parallel a b) (plan.pieces layer a) (plan.pieces layer b) := by
  unfold Plan.pieces
  apply List.rel_append _ h.offsetPieces
  apply List.rel_append _ (texts [" "])
  apply List.rel_append _ h.limitPieces
  apply List.rel_append _ (texts [_])
  apply List.rel_append _ (h.conditions layer plan)
  apply List.rel_append _ (texts [_, _, _])
  exact List.rel_append (texts ["SELECT "]) (selection layer plan.projection)

end QueryRequest.SameShape

/-- Two requests that differ in bound values alone are refused for one reason or get one text, and
their parameters stand for the same values of each. -/
theorem compile_text_independent (layer : Layer) (catalog : Catalog) (h : a.SameShape b) :
    (∃ e, compile layer catalog a = .error e ∧ compile layer catalog b = .error e) ∨
      ∃ s t, compile layer catalog a = .ok s ∧ compile layer catalog b = .ok t ∧
        s.sql = t.sql ∧ s.binds.length = t.binds.length ∧
        s.binds.map Bind.kind = t.binds.map Bind.kind ∧
        ∃ values : List BoundValue,
          s.binds = values.map a.bindOf ∧ t.binds = values.map b.bindOf := by
  simp only [compile, h.make_eq layer catalog]
  cases Plan.make layer catalog b with
  | error e => exact .inl ⟨e, rfl, rfl⟩
  | ok plan =>
      have hparallel := Statement.Parallel.ofPieces (h.pieces layer plan)
      exact .inr ⟨_, _, rfl, rfl, hparallel.sql, hparallel.length_binds, hparallel.kinds,
        hparallel.binds⟩

/-- A page of the deep wells of some place and time. -/
def deepWells (time : TimeRange) (extent : String) (outSrid limit offset : Int) : QueryRequest where
  clause := some "depth > 10.5"
  time := some time
  extent := some extent
  outSrid := outSrid
  limit := limit
  offset := offset

/-- The layer of the wells that the catalog of wells describes. -/
def wellsLayer : Layer where
  id := 0
  name := "Wells"
  table := "db_wells"
  objectIdField := "site_id"
  kind := .point
  timeInfo := some { startField := "drilled" }
  relations := [⟨"samples", 0, "site_id", "site_id", "db_samples"⟩]

theorem compile_text_independent_wells :
    let a := deepWells ⟨⟨0, 0⟩, ⟨86400, 0⟩⟩ "POINT(1 2)" 4326 10 20
    let b := deepWells ⟨⟨-86400, 0⟩, ⟨0, 0⟩⟩ "POINT(0 0)'" 3857 1 2
    a.SameShape b ∧
      ∃ s t, compile wellsLayer Where.wells a = .ok s ∧ compile wellsLayer Where.wells b = .ok t ∧
        s.sql = t.sql ∧ s.binds.length = t.binds.length ∧
        s.binds.map Bind.kind = t.binds.map Bind.kind ∧
        ∃ values : List BoundValue,
          s.binds = values.map a.bindOf ∧ t.binds = values.map b.bindOf := by
  intro a b
  have hshape : a.SameShape b :=
    ⟨rfl, rfl, rfl, rfl, rfl, rfl, rfl, by decide, rfl, by decide, by decide⟩
  have hok : (compile wellsLayer Where.wells a).isOk = true := by decide +kernel
  refine ⟨hshape, ?_⟩
  rcases compile_text_independent wellsLayer Where.wells hshape with ⟨e, he, -⟩ | h
  · rw [he] at hok
    cases hok
  · exact h

end GeoLayers
