import GeoLayers.Proofs.Query.Binding
import GeoLayers.Proofs.Query.Plan
import Mathlib.Data.List.Nodup

/-!
The layout of a query's statement, with a name for every value instead of a number. The layout says
where each value belongs; numbers come in only when it is written down, and then a value's number is
its place among all the values of the request.
-/

namespace GeoLayers

open Statement (Piece)

/-- A part of a statement's layout. -/
inductive Part where
  | text (s : String)
  /-- The condition that was written by the client, as the layer's database reads it. -/
  | clause (s : String)
  | value (v : BoundValue)
  deriving DecidableEq, Repr

namespace Part

/-- The text of a part when the values are numbered in some order. -/
def render (values : List BoundValue) : Part → String
  | .text s => s
  | .clause s => " AND (" ++ s ++ ")"
  | .value v => "$" ++ toString (values.idxOf v + 1)

/-- The value that a part holds. -/
def value? : Part → Option BoundValue
  | .value v => some v
  | _ => none

/-- The piece that a part becomes for a request. -/
def piece (request : QueryRequest) : Part → Piece
  | .text s => .text s
  | .clause s => .text (" AND (" ++ s ++ ")")
  | .value v => .bind (request.bindOf v)

end Part

/-- A condition on the rows of a query. -/
inductive Conjunct where
  | clause (condition : Where)
  | instant (field : String)
  | period (field : String)
  | firstStep (field : String)
  | objectIds
  | extent

namespace Conjunct

/-- The place of a condition: the client's own, the time, the object ids, the extent. -/
def rank : Conjunct → Nat
  | .clause _ => 0
  | .instant _ | .period _ | .firstStep _ => 1
  | .objectIds => 2
  | .extent => 3

def layout (layer : Layer) (request : QueryRequest) : Conjunct → List Part
  | .clause condition => [.clause condition.text]
  | .instant field =>
    [.text (" AND " ++ columnOf sourceAlias field ++ " = "), .value .timeStart, .text "::date"]
  | .period field =>
    [.text (" AND " ++ columnOf sourceAlias field ++ " BETWEEN "), .value .timeStart,
      .text "::date AND ", .value .timeStop, .text "::date"]
  | .firstStep field =>
    [.text (" AND " ++ columnOf sourceAlias field ++ " = (SELECT MIN(" ++ quoteName field ++
      ") FROM " ++ quoteName layer.table ++ ")")]
  | .objectIds =>
    .text (" AND " ++ columnOf sourceAlias layer.objectIdField ++ " IN (") ::
      [.text ", "].intercalate
        ((List.range request.objectIds.length).map fun place => [.value (.objectId place)]) ++
      [.text ")"]
  | .extent =>
    [.text (" AND ST_Intersects(" ++ columnOf sourceAlias layer.geometryField ++
      ", ST_GeomFromText("), .value .extent, .text (", " ++ toString webMercator ++ "))")]

end Conjunct

namespace QueryRequest

variable (layer : Layer) (request : QueryRequest)

/-- Whether a request asks for features, and not only for their ids or their number. -/
def asksFeatures : Bool := !request.idsOnly && !request.countOnly

/-- The condition on the time. A request without a time and without a condition of its own gets the
first time of the layer, unless it asks for a number. -/
def timeConjunct (conditioned : Bool) : List Conjunct :=
  match layer.timeField?, request.time with
  | none, _ => []
  | some field, some range => [if range.isInstant then .instant field else .period field]
  | some field, none =>
    if conditioned || (request.countOnly && !request.idsOnly) then [] else [.firstStep field]

/-- The conditions on the rows, in their order. -/
def conjuncts (condition : Option Where) : List Conjunct :=
  condition.toList.map .clause ++ timeConjunct layer request condition.isSome ++
    (if request.objectIds.isEmpty then [] else [.objectIds]) ++
    (if request.extent.isSome then [.extent] else [])

/-- The values that the statement binds, in the order of their numbers. -/
def boundValues : List BoundValue :=
  (if request.asksFeatures && request.withGeometry then [.outSrid] else []) ++
    (match layer.timeField?, request.time with
      | some _, some range => if range.isInstant then [.timeStart] else [.timeStart, .timeStop]
      | _, _ => []) ++
    (List.range request.objectIds.length).map .objectId ++
    (if request.extent.isSome then [.extent] else []) ++
    (if request.pageLimit?.isSome then [.limit] else []) ++
    (if request.isPaged && 0 < request.offset then [.offset] else [])

end QueryRequest

theorem QueryRequest.asksFeatures_iff {request : QueryRequest} :
    request.asksFeatures = true ↔ request.idsOnly = false ∧ request.countOnly = false := by
  rw [asksFeatures, Bool.and_eq_true, Bool.not_eq_true', Bool.not_eq_true']

namespace Plan

variable (layer : Layer) (request : QueryRequest) (plan : Plan)

/-- What is selected. -/
def selectionLayout : Projection → List Part
  | .count => [.text "COUNT(0) AS \"count\""]
  | .ids => [.text ("DISTINCT " ++ columnOf sourceAlias layer.objectIdField)]
  | .fields names geometry =>
    [.text ", "].intercalate
      (names.map (fun name => [.text (fieldText name ++ " AS " ++ quoteName name)]) ++
        if geometry then
          [[.text ("ST_AsText(ST_Transform(" ++ columnOf sourceAlias layer.geometryField ++ ", "),
            .value .outSrid, .text (")) AS " ++ quoteName geometryColumn)]]
        else [])

/-- The fields that the rows are sorted by, as they are written. -/
def orderText : String :=
  let sorted := (plan.order layer (plan.relations layer)).map sortText
  if sorted.isEmpty then "" else "ORDER BY " ++ ", ".intercalate sorted

/-- A statement's layout as far as its conditions. -/
def front : List Part :=
  [.text "SELECT "] ++ selectionLayout layer plan.projection ++
    [.text (" FROM " ++ quoteName layer.table ++ " AS " ++ quoteName sourceAlias ++ " "),
      .text (" ".intercalate ((plan.relations layer).map joinText)), .text " "] ++
    .text "WHERE 1=1" ::
      (request.conjuncts layer plan.condition).flatMap (Conjunct.layout layer request)

/-- The layout of a query's statement. -/
def layout : List Part :=
  plan.front layer request ++ [.text (" " ++ orderText layer plan ++ " ")] ++
    (if request.pageLimit?.isSome then [.text "LIMIT ", .value .limit] else []) ++ [.text " "] ++
    (if request.isPaged && 0 < request.offset then [.text "OFFSET ", .value .offset] else [])

end Plan

variable {layer : Layer} {catalog : Catalog} {request : QueryRequest} {plan : Plan}

/-- Items with a separator between them, seen through a function on what is in them. -/
theorem map_intercalate {α β : Type} (f : α → β) (sep : List α) (xs : List (List α)) :
    (sep.intercalate xs).map f = (sep.map f).intercalate (xs.map (List.map f)) := by
  induction xs with
  | nil => rfl
  | cons x xs ih =>
      cases xs with
      | nil => simp [List.intercalate]
      | cons y ys => simp [List.intercalate_cons_cons, ih]

/-- A separator in which nothing is found is as good as none. -/
theorem filterMap_intercalate {α β : Type} (f : α → Option β) (sep : List α)
    (hsep : sep.filterMap f = []) (xs : List (List α)) :
    (sep.intercalate xs).filterMap f = xs.flatMap (List.filterMap f) := by
  induction xs with
  | nil => rfl
  | cons x xs ih =>
      cases xs with
      | nil => simp [List.intercalate]
      | cons y ys => simp [List.intercalate_cons_cons, ih, hsep]

theorem Statement.between_eq (sep : String) (xs : List (List Piece)) :
    between sep xs = [.text sep].intercalate xs := by
  induction xs with
  | nil => rfl
  | cons x xs ih =>
      cases xs with
      | nil => simp [between, List.intercalate]
      | cons y ys =>
          rw [List.intercalate_cons_cons, ← ih, List.append_assoc]
          rfl

/-- A clause that passes the check is no condition only if it is blank. -/
theorem Where.eq_none_iff_of_check {condition : Option Where} {includeRelated : Bool}
    {text : String} (h : check catalog includeRelated text = .ok condition) :
    condition = none ↔ Text.isBlankText text := by
  unfold check at h
  split at h
  case isTrue hblank =>
    obtain rfl := Except.ok.inj h
    exact ⟨fun _ => hblank, fun _ => rfl⟩
  case isFalse hblank =>
    refine ⟨fun hnone => ?_, fun htrue => absurd htrue hblank⟩
    subst hnone
    split at h
    · cases h
    · obtain ⟨_, -, hsome⟩ := exists_ok_of_bind h
      cases hsome

namespace Plan

/-- A plan answers a request: it is for features, for ids or for a number as the request asks, and
its condition is what the check makes of the request's clause. -/
structure Answers (catalog : Catalog) (request : QueryRequest) (plan : Plan) : Prop where
  features : ∀ {names geometry}, plan.projection = .fields names geometry →
    request.asksFeatures = true ∧ geometry = request.withGeometry
  ids : plan.projection = .ids → request.idsOnly = true
  count : plan.projection = .count → request.idsOnly = false ∧ request.countOnly = true
  condition : request.clause.elim (.ok none) (Where.check catalog request.includesRelated) =
    .ok plan.condition

theorem answers_of_make (h : make layer catalog request = .ok plan) : plan.Answers catalog request := by
  obtain ⟨condition, -, hcondition, rfl⟩ := checked_of_make h
  unfold ofCondition
  cases hids : request.idsOnly with
  | true => exact ⟨nofun, fun _ => hids, nofun, hcondition⟩
  | false =>
      cases hcount : request.countOnly with
      | true => exact ⟨nofun, nofun, fun _ => ⟨hids, hcount⟩, hcondition⟩
      | false =>
          refine ⟨fun heq => ⟨?_, ?_⟩, nofun, nofun, hcondition⟩
          · exact QueryRequest.asksFeatures_iff.2 ⟨hids, hcount⟩
          · exact (Projection.fields.inj heq).2.symm

theorem Answers.isCount (h : plan.Answers catalog request) :
    (plan.projection == .count) = (request.countOnly && !request.idsOnly) := by
  cases hprojection : plan.projection with
  | count =>
      obtain ⟨hids, hcount⟩ := h.count hprojection
      simp [hids, hcount]
  | ids => simp [h.ids hprojection]
  | fields names geometry =>
      have hcount := (QueryRequest.asksFeatures_iff.1 (h.features hprojection).1).2
      simp [hcount]

theorem Answers.condition_eq_none_iff (h : plan.Answers catalog request) :
    plan.condition = none ↔ ∀ text, request.clause = some text → Text.isBlankText text := by
  have hcondition := h.condition
  cases hclause : request.clause with
  | none =>
      rw [hclause] at hcondition
      simpa using (Except.ok.inj hcondition).symm
  | some text =>
      rw [hclause] at hcondition
      simpa using Where.eq_none_iff_of_check hcondition

theorem Answers.condition_eq_some_iff (h : plan.Answers catalog request) {w : Where} :
    plan.condition = some w ↔ ∃ text, request.clause = some text ∧
      Where.check catalog request.includesRelated text = .ok (some w) := by
  have hcondition := h.condition
  cases hclause : request.clause with
  | none =>
      rw [hclause] at hcondition
      simp [← Except.ok.inj hcondition]
  | some text =>
      rw [hclause, Option.elim_some] at hcondition
      simp [hcondition]

end Plan

/-! ### The pieces of a statement are those of its layout -/

theorem map_selectionLayout (projection : Projection) :
    (Plan.selectionLayout layer projection).map (Part.piece request) =
      Plan.selection layer request projection := by
  cases projection with
  | count => rfl
  | ids => rfl
  | fields names geometry =>
      rw [Plan.selectionLayout, map_intercalate, Plan.selection, Statement.between_eq,
        List.map_append, List.map_map]
      cases geometry <;> rfl

theorem map_timeConjunct (h : plan.Answers catalog request) :
    ((request.timeConjunct layer plan.condition.isSome).flatMap
        (Conjunct.layout layer request)).map (Part.piece request) =
      Plan.timeCondition layer request plan := by
  unfold QueryRequest.timeConjunct Plan.timeCondition
  cases layer.timeField? with
  | none => rfl
  | some field =>
      cases htime : request.time with
      | none =>
          have hcount := h.isCount
          cases hcondition : plan.condition with
          | some condition => rfl
          | none =>
              dsimp only
              rw [bne, hcount]
              cases request.countOnly && !request.idsOnly <;> rfl
      | some range =>
          dsimp only
          split <;> simp [Conjunct.layout, Part.piece, QueryRequest.bindOf, htime]

theorem map_idConjunct :
    ((if request.objectIds.isEmpty then [] else [Conjunct.objectIds]).flatMap
        (Conjunct.layout layer request)).map (Part.piece request) =
      Plan.idCondition layer request := by
  have hbinds : ((List.range request.objectIds.length).map fun place =>
        [Part.value (.objectId place)]).map (List.map (Part.piece request)) =
      request.objectIds.map fun id => [.bind (.bigInt id)] := by
    apply List.ext_getElem (by simp)
    intro place hleft hright
    have hplace : place < request.objectIds.length := by simpa using hright
    simp [Part.piece, QueryRequest.bindOf, hplace]
  unfold Plan.idCondition
  cases hids : request.objectIds with
  | nil => rfl
  | cons id ids =>
      rw [hids] at hbinds
      simp only [List.isEmpty_cons, Bool.false_eq_true, if_false, List.flatMap_singleton,
        Conjunct.layout, List.map_cons, List.map_append, hids, map_intercalate]
      rw [hbinds, Statement.between_eq]
      rfl

theorem map_extentConjunct :
    ((if request.extent.isSome then [Conjunct.extent] else []).flatMap
        (Conjunct.layout layer request)).map (Part.piece request) =
      Plan.extentCondition layer request := by
  unfold Plan.extentCondition
  cases hextent : request.extent with
  | none => rfl
  | some extent => simp [Conjunct.layout, Part.piece, QueryRequest.bindOf, hextent]

theorem map_conjuncts (h : plan.Answers catalog request) :
    .text "WHERE 1=1" :: ((request.conjuncts layer plan.condition).flatMap
        (Conjunct.layout layer request)).map (Part.piece request) =
      Plan.conditions layer request plan := by
  unfold Plan.conditions QueryRequest.conjuncts
  rw [List.flatMap_append, List.flatMap_append, List.flatMap_append, List.map_append,
    List.map_append, List.map_append, map_timeConjunct h, map_idConjunct, map_extentConjunct]
  cases plan.condition <;> rfl

theorem map_layout (h : plan.Answers catalog request) :
    (plan.layout layer request).map (Part.piece request) = plan.pieces layer request := by
  have hlimit : (if request.pageLimit?.isSome then [Part.text "LIMIT ", .value .limit] else []).map
      (Part.piece request) = Plan.limitPieces request := by
    unfold Plan.limitPieces QueryRequest.pageLimit?
    split <;> rfl
  have hoffset : (if request.isPaged && 0 < request.offset then
        [Part.text "OFFSET ", .value .offset] else []).map (Part.piece request) =
      Plan.offsetPieces request := by
    unfold Plan.offsetPieces
    split <;> rfl
  unfold Plan.layout Plan.front Plan.pieces
  simp only [List.map_append, hlimit, hoffset, map_selectionLayout, List.map_cons]
  rw [← map_conjuncts h]
  rfl

/-! ### The values of a layout -/

/-- The values that some parts hold. -/
def valuesIn (parts : List Part) : List BoundValue := parts.filterMap Part.value?

theorem valuesIn_append (parts more : List Part) :
    valuesIn (parts ++ more) = valuesIn parts ++ valuesIn more :=
  List.filterMap_append

theorem valuesIn_selectionLayout (h : plan.Answers catalog request) :
    valuesIn (Plan.selectionLayout layer plan.projection) =
      if request.asksFeatures && request.withGeometry then [.outSrid] else [] := by
  cases hprojection : plan.projection with
  | count => simp [QueryRequest.asksFeatures, h.count hprojection]; rfl
  | ids => simp [QueryRequest.asksFeatures, h.ids hprojection]; rfl
  | fields names geometry =>
      obtain ⟨hasks, rfl⟩ := h.features hprojection
      have hcolumns : (names.map fun name =>
          [Part.text (fieldText name ++ " AS " ++ quoteName name)]).flatMap valuesIn = [] := by
        simp [valuesIn, Part.value?]
      rw [hasks, Plan.selectionLayout, valuesIn, filterMap_intercalate _ _ rfl, List.flatMap_append]
      change (names.map _).flatMap valuesIn ++ _ = _
      rw [hcolumns]
      cases request.withGeometry <;> rfl

theorem valuesIn_objectIds (layer : Layer) (request : QueryRequest) :
    valuesIn (Conjunct.layout layer request .objectIds) =
      (List.range request.objectIds.length).map .objectId := by
  have hids := filterMap_intercalate Part.value? [.text ", "] rfl
    ((List.range request.objectIds.length).map fun place => [Part.value (.objectId place)])
  rw [Conjunct.layout, valuesIn_append, valuesIn, List.filterMap_cons_none rfl, hids,
    List.flatMap_map, List.map_eq_flatMap]
  exact List.append_nil _

theorem valuesIn_conjuncts (condition : Option Where) :
    valuesIn ((request.conjuncts layer condition).flatMap (Conjunct.layout layer request)) =
      (match layer.timeField?, request.time with
        | some _, some range => if range.isInstant then [.timeStart] else [.timeStart, .timeStop]
        | _, _ => []) ++
        (List.range request.objectIds.length).map .objectId ++
        (if request.extent.isSome then [.extent] else []) := by
  have hclause : valuesIn ((condition.toList.map Conjunct.clause).flatMap
      (Conjunct.layout layer request)) = [] := by
    cases condition <;> rfl
  have hids : valuesIn ((if request.objectIds.isEmpty then [] else [Conjunct.objectIds]).flatMap
      (Conjunct.layout layer request)) = (List.range request.objectIds.length).map .objectId := by
    cases hids : request.objectIds with
    | nil => rfl
    | cons id ids =>
        rw [← hids, ← valuesIn_objectIds layer request]
        simp [hids]
  have hextent : valuesIn ((if request.extent.isSome then [Conjunct.extent] else []).flatMap
      (Conjunct.layout layer request)) = if request.extent.isSome then [.extent] else [] := by
    cases request.extent <;> rfl
  unfold QueryRequest.conjuncts
  rw [List.flatMap_append, List.flatMap_append, List.flatMap_append, valuesIn_append,
    valuesIn_append, valuesIn_append, hclause, hids, hextent, List.nil_append]
  congr 2
  unfold QueryRequest.timeConjunct
  cases layer.timeField? with
  | none => rfl
  | some field =>
      cases request.time with
      | none => dsimp only; split <;> rfl
      | some range => dsimp only; split <;> rfl

theorem valuesIn_layout (layer : Layer) (h : plan.Answers catalog request) :
    valuesIn (plan.layout layer request) = request.boundValues layer := by
  have hlimit : valuesIn (if request.pageLimit?.isSome then [.text "LIMIT ", .value .limit] else [])
      = if request.pageLimit?.isSome then [.limit] else [] := by
    split <;> rfl
  have hoffset : valuesIn (if request.isPaged && 0 < request.offset then
        [.text "OFFSET ", .value .offset] else []) =
      if request.isPaged && 0 < request.offset then [.offset] else [] := by
    split <;> rfl
  unfold Plan.layout Plan.front QueryRequest.boundValues
  simp only [valuesIn_append, valuesIn_selectionLayout h, hlimit, hoffset]
  change _ ++ _ ++ [] ++ valuesIn (List.flatMap _ _) ++ [] ++ _ ++ [] ++ _ = _
  rw [valuesIn_conjuncts]
  simp only [List.append_nil, List.append_assoc]
  rfl

/-- No value is bound twice. -/
theorem boundValues_nodup (layer : Layer) (request : QueryRequest) :
    (request.boundValues layer).Nodup := by
  have hids : ((List.range request.objectIds.length).map BoundValue.objectId).Nodup :=
    List.Nodup.map (fun _ _ => BoundValue.objectId.inj) List.nodup_range
  have hall : ([BoundValue.outSrid] ++ [BoundValue.timeStart, BoundValue.timeStop] ++
      (List.range request.objectIds.length).map BoundValue.objectId ++ [BoundValue.extent] ++
      [BoundValue.limit] ++ [BoundValue.offset]).Nodup := by
    simp [List.nodup_append, hids]
  refine List.Sublist.nodup ?_ hall
  unfold QueryRequest.boundValues
  refine .append (.append (.append (.append (.append ?_ ?_) (.refl _)) ?_) ?_) ?_
  · split <;> simp
  · split
    · split <;> simp
    · simp
  all_goals split <;> simp

/-! ### Numbers -/

theorem toString_injective : Function.Injective (toString : Nat → String) := by
  intro m n h
  have hdigits : Nat.toDigits 10 m = Nat.toDigits 10 n := by
    simpa [toString] using congrArg String.toList h
  rw [← Nat.ofDigitChars_toDigits (b := 10) (n := m) (by decide) (by decide), hdigits,
    Nat.ofDigitChars_toDigits (by decide) (by decide)]

/-- Parts that are added to a statement are numbered by the places of their values. -/
theorem foldl_add_parts (request : QueryRequest) (parts : List Part) (values : List BoundValue)
    {s : Statement} (hbinds : s.binds = values.map request.bindOf)
    (hnodup : (values ++ valuesIn parts).Nodup) :
    (parts.map (Part.piece request)).foldl Statement.add s =
      ⟨s.sql ++ String.join (parts.map (Part.render (values ++ valuesIn parts))),
        (values ++ valuesIn parts).map request.bindOf⟩ := by
  induction parts generalizing values s with
  | nil => simp [valuesIn, ← hbinds]
  | cons part parts ih =>
      rw [List.map_cons, List.map_cons, List.foldl_cons, String.join_cons, ← String.append_assoc]
      cases part with
      | text text => exact ih values (s := s.push text) hbinds hnodup
      | clause text => exact ih values (s := s.push (" AND (" ++ text ++ ")")) hbinds hnodup
      | value v =>
          have hsplit : values ++ valuesIn (.value v :: parts) = values ++ [v] ++ valuesIn parts :=
            List.append_cons values v (valuesIn parts)
          rw [hsplit] at hnodup ⊢
          have hnew : v ∉ values := by
            intro hmem
            rw [List.append_assoc, List.nodup_append] at hnodup
            exact hnodup.2.2 v hmem v (by simp) rfl
          have hplace : (values ++ [v] ++ valuesIn parts).idxOf v = s.binds.length := by
            rw [List.append_assoc, List.idxOf_append_of_notMem hnew, hbinds, List.length_map]
            simp
          rw [Part.render, hplace]
          have hpushed : (s.pushBind (request.bindOf v)).binds =
              (values ++ [v]).map request.bindOf := by
            rw [List.map_append, ← hbinds]
            rfl
          exact ih (values ++ [v]) hpushed hnodup

/-- A statement binds the values of its request in their order, and is the text of its layout with
every value numbered by its place among them. -/
theorem compile_layout {s : Statement} (h : compile layer catalog request = .ok s) :
    ∃ plan, Plan.make layer catalog request = .ok plan ∧ plan.Answers catalog request ∧
      s = ⟨String.join ((plan.layout layer request).map (Part.render (request.boundValues layer))),
        (request.boundValues layer).map request.bindOf⟩ := by
  obtain ⟨plan, hplan, hs⟩ := exists_ok_of_bind h
  have hanswers := Plan.answers_of_make hplan
  have hvalues := valuesIn_layout layer hanswers
  have hparts := foldl_add_parts request (plan.layout layer request) [] (s := ⟨"", []⟩) rfl
    (by simpa [hvalues] using boundValues_nodup layer request)
  refine ⟨plan, hplan, hanswers, ?_⟩
  rw [map_layout hanswers, hvalues, List.nil_append, String.empty_append] at hparts
  rw [← hparts]
  exact (Except.ok.inj hs).symm

end GeoLayers
