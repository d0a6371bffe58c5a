import GeoLayers.Proofs.Edit.Target
import GeoLayers.Proofs.Number.Exact

/-!
Whole numbers on their way from a client into a statement. What a value denotes is a rational number
or nothing; a column of whole numbers takes exactly the integers in its range, and refuses all else.
The one exception are numbers beyond the range of 64 bits: these are not refused, as texts are, but
cut to the end of the range, in columns of 64 bits and as object ids.
-/

namespace GeoLayers

namespace Json

/-- The number that a value denotes: a number is itself, a text the decimal integer that it is, with
blanks around it. -/
inductive Denotes : Json → ℚ → Prop
  | integer (n : Int) : Denotes (.integer n) n
  | float {x : Float} {q : ℚ} (h : (Number.Binary.ofFloat x).value? = some q) : Denotes (.float x) q
  | text {s : String} {n : Int} (h : Number.DecimalInteger (Text.trim s).toList n) :
    Denotes (.text s) n

/-- A number that denotes an integer beyond the range of 64 bits, with the end of the range that is
next to it. -/
def CutTo (value : Json) (v : Int) : Prop :=
  (∀ s, value ≠ .text s) ∧ ∃ n : Int, value.Denotes n ∧
    (Number.maxInt64 < n ∧ v = Number.maxInt64 ∨ n < Number.minInt64 ∧ v = Number.minInt64)

variable {value : Json}

theorem isNull_iff : value.isNull = true ↔ value = .null := by
  cases value <;> simp [isNull]

theorem denotes_integer_iff {n : Int} {q : ℚ} : (Json.integer n).Denotes q ↔ q = n := by
  constructor
  · rintro ⟨⟩
    rfl
  · rintro rfl
    exact .integer n

theorem denotes_float_iff {x : Float} {q : ℚ} :
    (Json.float x).Denotes q ↔ (Number.Binary.ofFloat x).value? = some q :=
  ⟨fun h => by cases h; assumption, .float⟩

theorem denotes_text_iff {s : String} {n : Int} :
    (Json.text s).Denotes n ↔ Number.DecimalInteger (Text.trim s).toList n := by
  constructor
  · intro h
    generalize hq : (n : ℚ) = q at h
    cases h with
    | text h =>
        obtain rfl : n = _ := by exact_mod_cast hq
        exact h
  · exact .text

/-- A value denotes one number at most. -/
theorem Denotes.unique {q r : ℚ} (hq : value.Denotes q) (hr : value.Denotes r) : q = r := by
  cases hq with
  | integer n => exact (denotes_integer_iff.1 hr).symm
  | float h => exact Option.some.inj (h.symm.trans (denotes_float_iff.1 hr))
  | text h =>
      cases hr with
      | text h' => rw [h.unique h']

/-- A number that is cut is not what the value denotes. -/
theorem CutTo.not_denotes {v : Int} (h : value.CutTo v) : ¬value.Denotes v := by
  obtain ⟨-, n, hn, hv⟩ := h
  intro hdenotes
  have heq : v = n := by exact_mod_cast hdenotes.unique hn
  omega

end Json

/-- What is left of an integer in the range of 64 bits. -/
theorem Number.clamp_eq_iff {n v : Int} : max minInt64 (min maxInt64 n) = v ↔
    (n = v ∧ minInt64 ≤ v ∧ v ≤ maxInt64) ∨
      maxInt64 < n ∧ v = maxInt64 ∨ n < minInt64 ∧ v = minInt64 := by
  unfold minInt64 maxInt64
  omega

section Values

variable {value : Json} {v : Int}

/-- A number is read as a whole number exactly if it denotes an integer, of which is taken what is
left in the range of 64 bits. -/
theorem wholeValue?_of_number (h : ∀ s, value ≠ .text s) : wholeValue? value = some v ↔
    ∃ n : Int, value.Denotes n ∧ max Number.minInt64 (min Number.maxInt64 n) = v := by
  cases value with
  | integer n =>
      rw [wholeValue?, Option.some.injEq]
      constructor
      · exact fun hv => ⟨n, .integer n, hv⟩
      · rintro ⟨m, hm, hv⟩
        obtain rfl : m = n := by exact_mod_cast Json.denotes_integer_iff.1 hm
        exact hv
  | float x =>
      rw [wholeValue?, Option.ite_none_right_eq_some, Option.some.injEq]
      constructor
      · rintro ⟨hwhole, hv⟩
        obtain ⟨n, -, hn⟩ := Number.Binary.value?_of_isWhole hwhole
        exact ⟨n, .float hn, (Number.Binary.clamped_eq hn _ _).symm.trans hv⟩
      · rintro ⟨n, hn, hv⟩
        have hvalue := Json.denotes_float_iff.1 hn
        exact ⟨Number.Binary.isWhole_of_value? hvalue,
          (Number.Binary.clamped_eq hvalue _ _).trans hv⟩
  | text s => exact absurd rfl (h s)
  | null | bool _ | array _ | object _ =>
      refine iff_of_false nofun ?_
      rintro ⟨n, hn, -⟩
      cases hn

/-- A value is read as a whole number exactly if it denotes it and it fits 64 bits, or if it is a
number that is cut to it. -/
theorem wholeValue?_eq_some_iff : wholeValue? value = some v ↔
    (value.Denotes v ∧ Number.minInt64 ≤ v ∧ v ≤ Number.maxInt64) ∨ value.CutTo v := by
  by_cases htext : ∃ s, value = .text s
  · obtain ⟨s, rfl⟩ := htext
    have hcut : ¬(Json.text s).CutTo v := fun h => h.1 s rfl
    rw [or_iff_left hcut, Json.denotes_text_iff]
    exact Number.int64?_eq_some_iff
  · have hnumber : ∀ s, value ≠ .text s := fun s hs => htext ⟨s, hs⟩
    rw [wholeValue?_of_number hnumber]
    constructor
    · rintro ⟨n, hn, hv⟩
      rcases Number.clamp_eq_iff.1 hv with ⟨rfl, hrange⟩ | hbeyond
      · exact .inl ⟨hn, hrange⟩
      · exact .inr ⟨hnumber, n, hn, hbeyond⟩
    · rintro (⟨hdenotes, hrange⟩ | ⟨-, n, hn, hbeyond⟩)
      · exact ⟨v, hdenotes, Number.clamp_eq_iff.2 (.inl ⟨rfl, hrange⟩)⟩
      · exact ⟨n, hn, Number.clamp_eq_iff.2 (.inr hbeyond)⟩

end Values

/-! ### Columns -/

theorem BindKind.ofNative_eq_int_iff {native : String} :
    ofNative native = .int ↔ native ∈ ["integer", "smallint"] := by
  unfold ofNative
  split_ifs with h <;> simp [h]

theorem BindKind.ofNative_eq_bigInt_iff {native : String} :
    ofNative native = .bigInt ↔ native = "bigint" := by
  unfold ofNative
  split_ifs with hint hbig
  · have hother : native ≠ "bigint" := by
      rintro rfl
      exact absurd hint (by decide)
    exact iff_of_false nofun hother
  all_goals simp_all

section Columns

variable {field : Field} {value : Json} {bind : Bind} {v : Int}

/-- What is made of a value that was found has one type. -/
theorem Bind.kind_of_found {α : Type} {make : α → Bind} {found : Option α} {e : Error}
    (h : (match found.map make with
      | some bind => Except.ok bind
      | none => .error e) = .ok bind) {kind : BindKind} (hmake : ∀ a, (make a).kind = kind) :
    bind.kind = kind := by
  cases found with
  | none => cases h
  | some a =>
      obtain rfl := Except.ok.inj h
      exact hmake a

/-- A parameter has the type of its column. -/
theorem kind_of_bindValue (h : bindValue field value = .ok bind) :
    bind.kind = BindKind.ofNative field.native := by
  unfold bindValue at h
  dsimp only at h
  split at h
  case isTrue =>
    obtain rfl := Except.ok.inj h
    rfl
  case isFalse =>
    split at h
    case h_1 hkind => exact (Bind.kind_of_found h fun _ => rfl).trans hkind.symm
    case h_2 hkind => exact (Bind.kind_of_found h fun _ => rfl).trans hkind.symm
    case h_3 hkind => exact (Bind.kind_of_found h fun _ => rfl).trans hkind.symm
    case h_4 hkind => exact (Bind.kind_of_found h fun _ => rfl).trans hkind.symm
    case h_5 hkind =>
      cases hmoment : momentOfValue value with
      | error e =>
          rw [hmoment] at h
          cases h
      | ok moment =>
          rw [hmoment] at h
          obtain rfl := Except.ok.inj h
          exact hkind.symm
    case h_6 hkind =>
      obtain rfl := Except.ok.inj h
      exact hkind.symm

/-- A value that is there in a column of 32 bits or fewer. -/
theorem bindValue_of_int (hkind : BindKind.ofNative field.native = .int)
    (hvalue : value.isNull = false) : bindValue field value =
      ((wholeValue? value).filter fun n => Number.minInt32 ≤ n && n ≤ Number.maxInt32).elim
        (.error (.request (.unfit value field.name field.native))) fun n => .ok (.int n) := by
  unfold bindValue
  simp only [hvalue, hkind, Bool.false_eq_true, if_false]
  cases (wholeValue? value).filter fun n => Number.minInt32 ≤ n && n ≤ Number.maxInt32 <;> rfl

/-- A value that is there in a column of 64 bits. -/
theorem bindValue_of_bigInt (hkind : BindKind.ofNative field.native = .bigInt)
    (hvalue : value.isNull = false) : bindValue field value =
      (wholeValue? value).elim (.error (.request (.unfit value field.name field.native)))
        fun n => .ok (.bigInt n) := by
  unfold bindValue
  simp only [hvalue, hkind, Bool.false_eq_true, if_false]
  cases wholeValue? value <;> rfl

theorem isNull_of_bindValue (h : bindValue field value = .ok bind)
    (hbind : ∀ kind, bind ≠ .null kind) : value.isNull = false := by
  cases hnull : value.isNull with
  | false => rfl
  | true =>
      rw [bindValue, if_pos hnull] at h
      exact absurd (Except.ok.inj h).symm (hbind _)

/-- A column of 32 bits or fewer takes a number exactly if the value denotes it and it fits. -/
theorem bindValue_eq_int_iff : bindValue field value = .ok (.int v) ↔
    field.native ∈ ["integer", "smallint"] ∧
      value.Denotes v ∧ Number.minInt32 ≤ v ∧ v ≤ Number.maxInt32 := by
  have hwhole (hfits : Number.minInt32 ≤ v ∧ v ≤ Number.maxInt32) :
      wholeValue? value = some v ↔ value.Denotes v := by
    rw [wholeValue?_eq_some_iff]
    unfold Number.minInt32 Number.maxInt32 at hfits
    constructor
    · rintro (h | ⟨-, n, -, hbeyond⟩)
      · exact h.1
      · unfold Number.minInt64 Number.maxInt64 at hbeyond
        omega
    · intro h
      refine .inl ⟨h, ?_⟩
      unfold Number.minInt64 Number.maxInt64
      omega
  constructor
  · intro h
    have hkind : BindKind.ofNative field.native = .int := (kind_of_bindValue h).symm
    rw [bindValue_of_int hkind (isNull_of_bindValue h nofun)] at h
    cases hfound : (wholeValue? value).filter fun n =>
        Number.minInt32 ≤ n && n ≤ Number.maxInt32 with
    | none =>
        rw [hfound] at h
        cases h
    | some n =>
        rw [hfound] at h
        obtain rfl := Bind.int.inj (Except.ok.inj h)
        obtain ⟨hn, hfits⟩ := Option.filter_eq_some_iff.1 hfound
        rw [Bool.and_eq_true, decide_eq_true_iff, decide_eq_true_iff] at hfits
        exact ⟨BindKind.ofNative_eq_int_iff.1 hkind, (hwhole hfits).1 hn, hfits⟩
  · rintro ⟨hnative, hdenotes, hfits⟩
    have hn := (hwhole hfits).2 hdenotes
    have hfound : ((wholeValue? value).filter fun n =>
        Number.minInt32 ≤ n && n ≤ Number.maxInt32) = some v := by
      rw [Option.filter_eq_some_iff, Bool.and_eq_true, decide_eq_true_iff, decide_eq_true_iff]
      exact ⟨hn, hfits⟩
    have hvalue : value.isNull = false := by
      cases hdenotes <;> rfl
    rw [bindValue_of_int (BindKind.ofNative_eq_int_iff.2 hnative) hvalue, hfound]
    rfl

/-- A column of 64 bits takes a number exactly if the value denotes it and it fits, or if the value
is a number that is cut to it. -/
theorem bindValue_eq_bigInt_iff : bindValue field value = .ok (.bigInt v) ↔
    field.native = "bigint" ∧
      ((value.Denotes v ∧ Number.minInt64 ≤ v ∧ v ≤ Number.maxInt64) ∨ value.CutTo v) := by
  rw [← wholeValue?_eq_some_iff, ← BindKind.ofNative_eq_bigInt_iff]
  constructor
  · intro h
    have hkind : BindKind.ofNative field.native = .bigInt := (kind_of_bindValue h).symm
    rw [bindValue_of_bigInt hkind (isNull_of_bindValue h nofun)] at h
    cases hfound : wholeValue? value with
    | none =>
        rw [hfound] at h
        cases h
    | some n =>
        rw [hfound] at h
        obtain rfl := Bind.bigInt.inj (Except.ok.inj h)
        exact ⟨hkind, rfl⟩
  · rintro ⟨hkind, hfound⟩
    have hvalue : value.isNull = false := by
      cases value with
      | null => cases hfound
      | _ => rfl
    rw [bindValue_of_bigInt hkind hvalue, hfound]
    rfl

/-- A column of whole numbers has a value that is there as a whole number, or refuses it. -/
theorem bindValue_whole_or_refused (hnative : field.native ∈ ["integer", "smallint", "bigint"])
    (hvalue : value.isNull = false) :
    (∃ v, bindValue field value = .ok (.int v) ∨ bindValue field value = .ok (.bigInt v)) ∨
      bindValue field value = .error (.request (.unfit value field.name field.native)) := by
  have hcases : field.native ∈ ["integer", "smallint"] ∨ field.native = "bigint" := by
    simpa [or_assoc] using hnative
  rcases hcases with hnative | hnative
  · rw [bindValue_of_int (BindKind.ofNative_eq_int_iff.2 hnative) hvalue]
    cases (wholeValue? value).filter fun n => Number.minInt32 ≤ n && n ≤ Number.maxInt32 with
    | none => exact .inr rfl
    | some n => exact .inl ⟨n, .inl rfl⟩
  · rw [bindValue_of_bigInt (BindKind.ofNative_eq_bigInt_iff.2 hnative) hvalue]
    cases wholeValue? value with
    | none => exact .inr rfl
    | some n => exact .inl ⟨n, .inr rfl⟩

end Columns

/-! ### Object ids -/

namespace Edit

variable {layer : Layer} {catalog : Catalog} {attributes : Attributes} {v : Int}

/-- The object id among attributes is a whole number. -/
def Identifies (layer : Layer) (attributes : Attributes) (id : Int) : Prop :=
  ∃ value, attributes.find? layer.objectIdField = some value ∧ wholeValue? value = some id

/-- An object id that is absent or null is missing. -/
theorem objectIdOf_of_none
    (h : ∀ value, attributes.find? layer.objectIdField = some value → value = .null) :
    objectIdOf layer attributes = .error (.missingAttributes [layer.objectIdField]) := by
  unfold objectIdOf
  cases hvalue : attributes.find? layer.objectIdField with
  | none => rfl
  | some value =>
      obtain rfl := h value hvalue
      rfl

/-- An object id that is there is read as a whole number, or refused. -/
theorem objectIdOf_of_value {value : Json}
    (hvalue : attributes.find? layer.objectIdField = some value) (hnull : value ≠ .null) :
    objectIdOf layer attributes =
      (wholeValue? value).elim (.error (.request (.objectIdValue value))) .ok := by
  have hpresent : (some value).filter (fun value => !value.isNull) = some value := by
    rw [Option.filter_some, Bool.eq_false_iff.2 (mt Json.isNull_iff.1 hnull)]
    rfl
  rw [objectIdOf, hvalue, hpresent]
  dsimp only
  cases wholeValue? value with
  | none => rfl
  | some n => rfl

theorem objectIdOf_eq_ok_iff_identifies :
    objectIdOf layer attributes = .ok v ↔ Identifies layer attributes v := by
  by_cases hnone : ∀ value, attributes.find? layer.objectIdField = some value → value = .null
  · rw [objectIdOf_of_none hnone]
    refine iff_of_false nofun ?_
    rintro ⟨value, hvalue, hwhole⟩
    obtain rfl := hnone value hvalue
    cases hwhole
  · simp only [not_forall, exists_prop] at hnone
    obtain ⟨value, hvalue, hnull⟩ := hnone
    rw [objectIdOf_of_value hvalue hnull, Identifies, hvalue]
    cases hwhole : wholeValue? value <;> simp [hwhole]

/-- An object id is the integer that the attribute denotes, if it fits 64 bits, or the one that it is
cut to. -/
theorem objectIdOf_eq_ok_iff : objectIdOf layer attributes = .ok v ↔
    ∃ value, attributes.find? layer.objectIdField = some value ∧
      ((value.Denotes v ∧ Number.minInt64 ≤ v ∧ v ≤ Number.maxInt64) ∨ value.CutTo v) := by
  rw [objectIdOf_eq_ok_iff_identifies, Identifies]
  simp only [wholeValue?_eq_some_iff]

/-- An update is about the row with the object id among the attributes. -/
theorem objectIdOf_of_updateStatement {update : Option Statement}
    (h : updateStatement layer catalog attributes = .ok (v, update)) :
    objectIdOf layer attributes = .ok v := by
  obtain ⟨objectId, hobjectId, hnext⟩ := exists_ok_of_bind h
  dsimp only at hnext
  split at hnext
  case isTrue => cases hnext
  case isFalse =>
    split at hnext
    case isTrue =>
      obtain ⟨rfl, -⟩ := Prod.mk.inj (Except.ok.inj hnext)
      exact hobjectId
    case isFalse =>
      obtain ⟨assignments, -, hpure⟩ := exists_ok_of_bind hnext
      obtain ⟨rfl, -⟩ := Prod.mk.inj (Except.ok.inj hpure)
      exact hobjectId

end Edit

/-- Whole numbers are stored exactly or refused, and an update is about the row with the object id
that it is given, except for numbers beyond the range of 64 bits: these are cut to the end of the
range, in columns of 64 bits and as object ids. -/
theorem integers_stored_iff (field : Field) (value : Json) (layer : Layer) (catalog : Catalog)
    (attributes : Attributes) :
    (∀ v, bindValue field value = .ok (.int v) ↔
      field.native ∈ ["integer", "smallint"] ∧
        value.Denotes v ∧ Number.minInt32 ≤ v ∧ v ≤ Number.maxInt32) ∧
    (∀ v, bindValue field value = .ok (.bigInt v) ↔
      field.native = "bigint" ∧
        ((value.Denotes v ∧ Number.minInt64 ≤ v ∧ v ≤ Number.maxInt64) ∨ value.CutTo v)) ∧
    (field.native ∈ ["integer", "smallint", "bigint"] → value.isNull = false →
      (∃ v, bindValue field value = .ok (.int v) ∨ bindValue field value = .ok (.bigInt v)) ∨
        bindValue field value = .error (.request (.unfit value field.name field.native))) ∧
    ∀ v update, Edit.updateStatement layer catalog attributes = .ok (v, update) →
      (∃ id, attributes.find? layer.objectIdField = some id ∧
        ((id.Denotes v ∧ Number.minInt64 ≤ v ∧ v ≤ Number.maxInt64) ∨ id.CutTo v)) ∧
      ∀ statement ∈ update, Edit.Picks "UPDATE " layer v statement := by
  refine ⟨fun v => bindValue_eq_int_iff, fun v => bindValue_eq_bigInt_iff,
    bindValue_whole_or_refused, ?_⟩
  intro v update hupdate
  exact ⟨Edit.objectIdOf_eq_ok_iff.1 (Edit.objectIdOf_of_updateStatement hupdate),
    (Edit.of_updateStatement hupdate).2⟩

/-- A number one above the range of 64 bits is stored as the greatest number in the range, which is
not what it denotes. -/
theorem number_beyond_range_stored :
    let beyond : Json := .integer 9223372036854775808
    bindValue (.ofColumn "depth" "bigint" true) beyond = .ok (.bigInt 9223372036854775807) ∧
      ¬beyond.Denotes (9223372036854775807 : Int) := by
  intro beyond
  have hcut : beyond.CutTo 9223372036854775807 :=
    ⟨nofun, 9223372036854775808, .integer _, .inl ⟨by decide, rfl⟩⟩
  exact ⟨bindValue_eq_bigInt_iff.2 ⟨rfl, .inr hcut⟩, hcut.not_denotes⟩

end GeoLayers
