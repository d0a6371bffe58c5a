import GeoLayers.Proofs.Query.Fields
import GeoLayers.Query.Compile

/-!
The plan of a query that passed its checks. Whatever fields are asked for, a plan for fields selects
the object id, unless its column is the one with the geometry, which is never selected by its name.
-/

namespace GeoLayers

theorem exists_ok_of_bind {α β : Type} {x : Except Error α} {f : α → Except Error β} {y : β}
    (h : x >>= f = .ok y) : ∃ a, x = .ok a ∧ f a = .ok y := by
  cases x with
  | error e => cases h
  | ok a => exact ⟨a, rfl, h⟩

theorem exists_ok_of_isOk {α : Type} {x : Except Error α} (h : x.isOk = true) :
    ∃ a, x = .ok a := by
  cases x with
  | error e => cases h
  | ok a => exact ⟨a, rfl⟩

theorem eq_ok_of_toOption {ε α : Type} {x : Except ε α} {a : α} (h : x.toOption = some a) :
    x = .ok a := by
  cases x with
  | error e => cases h
  | ok b => exact congrArg Except.ok (Option.some.inj h)

namespace Plan

variable {layer : Layer} {catalog : Catalog} {request : QueryRequest} {plan : Plan}

theorem compile_of_make (h : make layer catalog request = .ok plan) :
    compile layer catalog request = .ok (Statement.ofPieces (plan.pieces layer request)) := by
  rw [compile, h]
  rfl

/-- The plan of a query whose names passed the check. -/
def ofCondition (layer : Layer) (catalog : Catalog) (request : QueryRequest)
    (condition : Option Where) : Plan :=
  let requested := requestedFields request
  let fields :=
    if requested.contains layer.objectIdField then requested else layer.objectIdField :: requested
  if request.idsOnly then
    { fields := [layer.objectIdField], sort := [], condition, projection := .ids }
  else if request.countOnly then { fields := [], sort := [], condition, projection := .count }
  else
    { fields, sort := request.sort, condition
      projection := .fields (expandFields layer catalog fields) request.withGeometry }

/-- What a query was checked for when its plan was made. -/
theorem checked_of_make (h : make layer catalog request = .ok plan) :
    ∃ condition,
      (request.idsOnly = false →
        checkFields catalog request (requestedFields request) = .ok ()) ∧
      request.clause.elim (.ok none) (Where.check catalog request.includesRelated) = .ok condition ∧
      plan = ofCondition layer catalog request condition := by
  have hmake : make layer catalog request =
      (if !request.idsOnly then checkFields catalog request (requestedFields request) else .ok ())
        >>= fun _ => request.clause.elim (.ok none) (Where.check catalog request.includesRelated)
        >>= fun condition => .ok (ofCondition layer catalog request condition) := by
    unfold make ofCondition
    cases request.idsOnly <;> cases request.clause <;> cases request.countOnly <;> rfl
  rw [hmake] at h
  obtain ⟨⟨⟩, hfields, hnext⟩ := exists_ok_of_bind h
  obtain ⟨condition, hcondition, hplan⟩ := exists_ok_of_bind hnext
  refine ⟨condition, fun hids => ?_, hcondition, (Except.ok.inj hplan).symm⟩
  rw [hids] at hfields
  exact hfields

theorem eq_ofCondition_of_make (h : make layer catalog request = .ok plan) :
    ∃ condition, plan = ofCondition layer catalog request condition := by
  obtain ⟨condition, -, -, hplan⟩ := checked_of_make h
  exact ⟨condition, hplan⟩

theorem objectIdField_mem_of_make (hlayer : layer.faults = [])
    (hplan : make layer catalog request = .ok plan) {names : List String} {withGeometry : Bool}
    (hfields : plan.projection = .fields names withGeometry)
    (hid : layer.objectIdField ≠ layer.geometryField) : layer.objectIdField ∈ names := by
  obtain ⟨condition, rfl⟩ := eq_ofCondition_of_make hplan
  unfold ofCondition at hfields
  split at hfields
  · cases hfields
  split at hfields
  · cases hfields
  obtain ⟨rfl, -⟩ := Projection.fields.inj hfields
  rw [expandFields, mem_firstOccurrences, List.mem_filter]
  refine ⟨List.mem_append_right _ ?_, by simpa using hid⟩
  rw [List.mem_flatMap]
  refine ⟨layer.objectIdField, ?_, ?_⟩
  · split
    case isTrue hmem => simpa using hmem
    case isFalse => exact List.mem_cons_self
  · rw [fieldMeaning_of_plain (layer.objectIdField_plain hlayer)]
    exact List.mem_singleton.2 rfl

/-- Rows are sorted by the object id, by the fields that are asked for, and by the columns that they
are joined on. -/
theorem mem_order {joined : List Relation} {field : SortField} (h : field ∈ plan.order layer joined) :
    field = ⟨layer.objectIdField, none⟩ ∨ field ∈ plan.sort ∨
      ∃ relation ∈ joined, field = ⟨relation.sourceColumn, none⟩ := by
  unfold order at h
  split at h
  case h_1 => cases h
  case h_2 => exact .inl (List.mem_singleton.1 h)
  case h_3 =>
    generalize hfirst : (if plan.sort.isEmpty then (joinOrder joined).map fun name =>
      (⟨name, none⟩ : SortField) else plan.sort) = first at h
    have hmem : field ∈ first ∨ field ∈ [⟨layer.objectIdField, none⟩] := by
      dsimp only at h
      split at h
      case isTrue => exact .inl h
      case isFalse => exact List.mem_append.1 h
    rcases hmem with hmem | hmem
    · subst hfirst
      split at hmem
      case isFalse => exact .inr (.inl hmem)
      case isTrue =>
        obtain ⟨column, hcolumn, rfl⟩ := List.mem_map.1 hmem
        rw [joinOrder, mem_firstOccurrences, List.mem_map] at hcolumn
        obtain ⟨relation, hrelation, rfl⟩ := hcolumn
        exact .inr (.inr ⟨relation, List.mem_mergeSort.1 hrelation, rfl⟩)
    · exact .inl (List.mem_singleton.1 hmem)

/-- The rows of a plan for features are sorted by every field that is asked for. -/
theorem mem_order_of_mem_sort {names : List String} {geometry : Bool}
    (hprojection : plan.projection = .fields names geometry) {field : SortField}
    (h : field ∈ plan.sort) (joined : List Relation) : field ∈ plan.order layer joined := by
  unfold order
  rw [hprojection]
  simp only [List.isEmpty_eq_false_iff_exists_mem.2 ⟨field, h⟩, Bool.false_eq_true, if_false]
  split
  case isTrue => exact h
  case isFalse => exact List.mem_append_left _ h

/-- The object id is among the fields that features are sorted by. -/
theorem exists_mem_order (layer : Layer) {names : List String} {geometry : Bool}
    (h : plan.projection = .fields names geometry) (joined : List Relation) :
    ∃ field ∈ plan.order layer joined, field.name = layer.objectIdField := by
  have horder : ∃ fields : List SortField, plan.order layer joined =
      if fields.any (·.name == layer.objectIdField) then fields
      else fields ++ [⟨layer.objectIdField, none⟩] := by
    unfold order
    rw [h]
    exact ⟨_, rfl⟩
  obtain ⟨fields, horder⟩ := horder
  rw [horder]
  split
  case isTrue hany =>
    obtain ⟨field, hmem, hname⟩ := List.any_eq_true.1 hany
    exact ⟨field, hmem, eq_of_beq hname⟩
  case isFalse => exact ⟨⟨layer.objectIdField, none⟩, by simp, rfl⟩

end Plan

end GeoLayers
