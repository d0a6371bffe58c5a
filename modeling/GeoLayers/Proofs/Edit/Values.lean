import GeoLayers.Edit.Statement
import Mathlib.Data.List.Forall2

/-!
Columns and the attributes that they take their values from. Every column has a parameter of its own
attribute; the first value that does not fit its column is the reason why there are no parameters.
-/

namespace GeoLayers

theorem exists_fault_of_momentOfMillis {millis : Int} {e : Error}
    (h : momentOfMillis millis = .error e) : ∃ fault, e = .request fault := by
  unfold momentOfMillis at h
  split at h
  · cases h
  · exact ⟨_, (Except.error.inj h).symm⟩

theorem exists_fault_of_momentOfValue {value : Json} {e : Error}
    (h : momentOfValue value = .error e) : ∃ fault, e = .request fault := by
  unfold momentOfValue at h
  split at h
  · exact exists_fault_of_momentOfMillis h
  · exact exists_fault_of_momentOfMillis h
  · split at h
    · cases h
    · exact ⟨_, (Except.error.inj h).symm⟩
  · exact ⟨_, (Except.error.inj h).symm⟩

/-- A value is refused as a fault of the request. -/
theorem exists_fault_of_bindValue {field : Field} {value : Json} {e : Error}
    (h : bindValue field value = .error e) : ∃ fault, e = .request fault := by
  cases hnull : value.isNull with
  | true =>
      rw [bindValue, if_pos hnull] at h
      cases h
  | false =>
      simp only [bindValue, hnull, Bool.false_eq_true, if_false] at h
      cases hkind : BindKind.ofNative field.native with
      | int | bigInt | float | bool =>
          simp only [hkind] at h
          split at h
          · cases h
          · exact ⟨_, (Except.error.inj h).symm⟩
      | timestamp =>
          simp only [hkind] at h
          cases hvalue : momentOfValue value with
          | error e' =>
              rw [hvalue] at h
              obtain rfl : e' = e := Except.error.inj h
              exact exists_fault_of_momentOfValue hvalue
          | ok moment =>
              rw [hvalue] at h
              cases h
      | text =>
          simp only [hkind] at h
          cases h

namespace Edit

variable {attributes : Attributes} {columns : List Field} {binds : List Bind}

/-- A check for what is in a list that should be empty. -/
theorem ite_not_isEmpty {α β : Type} (xs : List α) (failed passed : β) :
    (if (!xs.isEmpty) = true then failed else passed) = if xs = [] then passed else failed := by
  cases xs <;> rfl

/-- A parameter for a column is made of the column's own attribute. -/
def Takes (attributes : Attributes) (field : Field) (bind : Bind) : Prop :=
  ∃ value, attributes.find? field.name = some value ∧ bindValue field value = .ok bind

/-- The first of some columns whose attribute does not fit it, and for what fault. -/
def FirstUnfit (attributes : Attributes) (columns : List Field) (fault : RequestFault) : Prop :=
  ∃ before field after value, columns = before ++ field :: after ∧
    (∀ earlier ∈ before, ∃ bind, Takes attributes earlier bind) ∧
    attributes.find? field.name = some value ∧ bindValue field value = .error (.request fault)

theorem FirstUnfit.ne_nil {fault : RequestFault} (h : FirstUnfit attributes columns fault) :
    columns ≠ [] := by
  obtain ⟨before, field, after, -, rfl, -⟩ := h
  exact List.append_ne_nil_of_right_ne_nil before (List.cons_ne_nil field after)

/-- Columns with an attribute each take the values of their attributes, or one of them is the first
that does not fit. -/
theorem takes_or_unfit (h : ∀ field ∈ columns, attributes.contains field.name = true) :
    (∃ binds, List.Forall₂ (Takes attributes) columns binds) ∨
      ∃ fault, FirstUnfit attributes columns fault := by
  induction columns with
  | nil => exact .inl ⟨[], .nil⟩
  | cons field columns ih =>
      obtain ⟨hfield, hcolumns⟩ := List.forall_mem_cons.1 h
      obtain ⟨value, hvalue⟩ := Option.isSome_iff_exists.1 hfield
      cases hbind : bindValue field value with
      | error e =>
          obtain ⟨fault, rfl⟩ := exists_fault_of_bindValue hbind
          exact .inr ⟨fault, [], field, columns, value, rfl, nofun, hvalue, hbind⟩
      | ok bind =>
          have htakes : Takes attributes field bind := ⟨value, hvalue, hbind⟩
          rcases ih hcolumns with ⟨binds, hall⟩ | ⟨fault, before, unfit, after, other, hsplit,
            hbefore, hunfit⟩
          · exact .inl ⟨bind :: binds, .cons htakes hall⟩
          · refine .inr ⟨fault, field :: before, unfit, after, other, ?_, ?_, hunfit⟩
            · rw [hsplit, List.cons_append]
            · exact List.forall_mem_cons.2 ⟨⟨bind, htakes⟩, hbefore⟩

theorem bindAll_eq_ok (h : List.Forall₂ (Takes attributes) columns binds) :
    bindAll attributes columns = .ok binds := by
  induction h with
  | nil => rfl
  | cons htakes _ ih =>
      obtain ⟨value, hvalue, hbind⟩ := htakes
      rw [bindAll] at ih ⊢
      rw [List.mapM_cons, hvalue, Option.getD_some, hbind, ih]
      rfl

theorem bindAll_eq_error {fault : RequestFault} (h : FirstUnfit attributes columns fault) :
    bindAll attributes columns = .error (.request fault) := by
  obtain ⟨before, field, after, value, rfl, hbefore, hvalue, hfault⟩ := h
  induction before with
  | nil =>
      rw [bindAll, List.nil_append, List.mapM_cons, hvalue, Option.getD_some, hfault]
      rfl
  | cons earlier before ih =>
      obtain ⟨⟨bind, other, hother, hbind⟩, hbefore⟩ := List.forall_mem_cons.1 hbefore
      rw [bindAll] at ih ⊢
      rw [List.cons_append, List.mapM_cons, hother, Option.getD_some, hbind, ih hbefore]
      rfl

end Edit

end GeoLayers
