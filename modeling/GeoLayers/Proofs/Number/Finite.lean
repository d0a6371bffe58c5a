import GeoLayers.Number.Scalar

/-!
Finite numbers: what their texts are made of, and that each of them is equal to itself. The text of a
coordinate has digits, a point and a minus sign, whatever the number is; equality of floating-point
numbers is symmetric, and only not-a-number differs from itself.
-/

namespace GeoLayers.Number

/-! ### Texts -/

/-- Whether a character may stand in a number without an exponent. -/
def InNumeral (c : Char) : Prop := isDigit c = true ∨ c = '.' ∨ c = '-'

theorem isDigit_of_char {c : Char} (h : c.isDigit = true) : isDigit c = true := by
  have hbounds : '0' ≤ c ∧ c ≤ '9' := by simpa [Char.isDigit, Char.le_def] using h
  rw [isDigit, digit?, if_pos hbounds]
  rfl

theorem isDigit_of_mem_toDigits {n : Nat} {c : Char} (h : c ∈ Nat.toDigits 10 n) :
    isDigit c = true :=
  isDigit_of_char (Nat.isDigit_of_mem_toDigits (by decide) (by decide) h)

theorem inNumeral_of_mem_zeros {n : Nat} {c : Char} (h : c ∈ (zeros n).toList) : InNumeral c := by
  rw [zeros, String.toList_ofList] at h
  rw [List.eq_of_mem_replicate h]
  exact .inl (by decide)

/-- A text of digits with zeros or a point among them. -/
theorem inNumeral_of_mem_plainText {digits : List Char} (hdigits : ∀ c ∈ digits, isDigit c = true)
    (top : Int) {c : Char} (h : c ∈ (Layout.positional.plainText digits top).toList) :
    InNumeral c := by
  unfold Layout.plainText at h
  dsimp only at h
  split at h
  case isTrue =>
    simp only [String.toList_append, List.mem_append, String.toList_ofList] at h
    rcases h with (hpoint | hzeros) | hdigit
    · have hstart : c = '0' ∨ c = '.' := by simpa using hpoint
      rcases hstart with rfl | rfl
      · exact .inl (by decide)
      · exact .inr (.inl rfl)
    · exact inNumeral_of_mem_zeros hzeros
    · exact .inl (hdigits c hdigit)
  case isFalse =>
    split at h
    case isTrue =>
      have hplain : Layout.positional.pointZero = false := rfl
      simp only [hplain, String.toList_append, List.mem_append, String.toList_ofList] at h
      rcases h with (hdigit | hzeros) | hend
      · exact .inl (hdigits c hdigit)
      · exact inNumeral_of_mem_zeros hzeros
      · simp at hend
    case isFalse =>
      simp only [String.toList_append, List.mem_append, String.toList_ofList] at h
      rcases h with (hwhole | hpoint) | hfraction
      · exact .inl (hdigits c (List.mem_of_mem_take hwhole))
      · exact .inr (.inl (by simpa using hpoint))
      · exact .inl (hdigits c (List.mem_of_mem_drop hfraction))

theorem plainText_ne_nil {digits : List Char} (hne : digits ≠ []) (top : Int) :
    (Layout.positional.plainText digits top).toList ≠ [] := by
  unfold Layout.plainText
  dsimp only
  split
  · simp
  · split
    · simp [hne]
    · simp

/-- The text of a finite coordinate. -/
theorem text_positional {x : Float} (h : isFinite x = true) :
    (Layout.positional.text x).toList ≠ [] ∧
      ∀ c ∈ (Layout.positional.text x).toList, InNumeral c := by
  rw [isFinite] at h
  unfold Layout.text
  split
  case h_1 hnan => simp [hnan] at h
  case h_2 hinf => simp [hinf] at h
  case h_3 negative mantissa exponent hparts =>
    have hsigned {text : String} (hne : text.toList ≠ []) (htext : ∀ c ∈ text.toList, InNumeral c) :
        ((if negative then "-" else "") ++ text).toList ≠ [] ∧
          ∀ c ∈ ((if negative then "-" else "") ++ text).toList, InNumeral c := by
      constructor
      · simp [hne]
      · intro c hc
        rw [String.toList_append, List.mem_append] at hc
        rcases hc with hsign | hc
        · cases negative with
          | true => exact .inr (.inr (by simpa using hsign))
          | false => simp at hsign
        · exact htext c hc
    have hplain : (Layout.positional.pointZero) = false := rfl
    have hleast : Layout.positional.least = none := rfl
    have hbound : Layout.positional.bound = none := rfl
    simp only [hplain, hleast, hbound]
    split
    case isTrue =>
      apply hsigned (by decide)
      intro c hc
      obtain rfl : c = '0' := by simpa using hc
      exact .inl (by decide)
    case isFalse =>
      exact hsigned (plainText_ne_nil Nat.toDigits_ne_nil _)
        fun c => inNumeral_of_mem_plainText (fun _ => isDigit_of_mem_toDigits) _

/-! ### Equality -/

open Float.Model (UnpackedFloat)

theorem compare_self {u : UnpackedFloat} (h : u ≠ .notANumber) : u.compare u = some .eq := by
  cases u with
  | infinity s => cases s <;> rfl
  | notANumber => exact absurd rfl h
  | zero s => rfl
  | finite s m e hm =>
      dsimp only [UnpackedFloat.compare]
      cases s <;> simp

/-- Equality of numbers is symmetric; the cases are those of the kind and the sign of each. -/
theorem compare_eq_comm {u v : UnpackedFloat} (h : u.compare v = some .eq) :
    v.compare u = some .eq := by
  rcases u with ⟨_ | _⟩ | _ | s | ⟨_ | _, m, e, hm⟩ <;>
    rcases v with ⟨_ | _⟩ | _ | t | ⟨_ | _, n, f, hn⟩ <;>
    dsimp only [UnpackedFloat.compare] at h ⊢ <;>
    simp_all

theorem scalarEq_iff {a b : Float} :
    Scalar.eq a b = true ↔ a.toModel.unpack.compare b.toModel.unpack = some .eq := by
  change (a.toModel.unpack.compare b.toModel.unpack == some .eq) = true ↔ _
  exact beq_iff_eq

theorem scalarEq_comm (a b : Float) : Scalar.eq a b = Scalar.eq b a := by
  rw [Bool.eq_iff_iff, scalarEq_iff, scalarEq_iff]
  exact ⟨compare_eq_comm, compare_eq_comm⟩

/-- Not-a-number has an exponent of ones only. -/
theorem unpackExponent_of_notANumber {bits : BitVec 64}
    (h : UnpackedFloat.unpack .binary64 bits = .notANumber) :
    @UnpackedFloat.unpackExponent .binary64 bits = (-1#_) := by
  apply Decidable.byContradiction
  intro hones
  unfold UnpackedFloat.unpack at h
  dsimp only at h
  rw [if_neg hones] at h
  -- What is left is a zero or a finite number.
  by_cases hzeros : @UnpackedFloat.unpackExponent .binary64 bits = 0#11
  · rw [if_pos hzeros] at h
    by_cases hnone : @UnpackedFloat.unpackMantissa .binary64 bits = 0#52
    · rw [dif_pos hnone] at h
      cases h
    · rw [dif_neg hnone] at h
      cases h
  · rw [if_neg hzeros] at h
    cases h

theorem isFinite_eq_false {x : Float} (h : x.toModel.unpack = .notANumber) : isFinite x = false := by
  have hones := congrArg BitVec.toNat (unpackExponent_of_notANumber h)
  have hfield : x.toBits.toNat / leadingBit % 2048 = 2047 := by
    rw [UnpackedFloat.unpackExponent, BitVec.toNat_cast, BitVec.extractLsb_toNat] at hones
    change x.toModel.toBits.toNat / 4503599627370496 % 2048 = 2047
    simpa [Nat.shiftRight_eq_div_pow] using hones
  have hparts : Binary.ofFloat x = .nan ∨ ∃ negative, Binary.ofFloat x = .infinite negative := by
    rw [Binary.ofFloat]
    simp only [hfield, if_true]
    split
    · exact .inr ⟨_, rfl⟩
    · exact .inl rfl
  rw [isFinite]
  rcases hparts with hnan | ⟨negative, hinf⟩
  · rw [hnan]
  · rw [hinf]

/-- A finite number is equal to itself. -/
theorem scalarEq_self {x : Float} (h : isFinite x = true) : Scalar.eq x x = true := by
  rw [scalarEq_iff]
  apply compare_self
  intro hnan
  rw [isFinite_eq_false hnan] at h
  cases h

end GeoLayers.Number
