import GeoLayers.Number.Numeral
import Mathlib.Algebra.Order.Field.Power
import Mathlib.Algebra.Order.Field.Rat
import Mathlib.Data.List.Induction
import Mathlib.Data.Nat.Digits.Defs
import Mathlib.Tactic.FieldSimp
import Mathlib.Tactic.NormNum

/-!
The exact numbers behind whole numbers. A finite binary number has a rational value; it has no
fraction exactly if the value is an integer, and what is left of it in a range is that integer or the
end of the range that is nearer. A text is read as a whole number exactly if it is a decimal integer
within the bounds.
-/

namespace GeoLayers.Number

/-! ### Binary numbers -/

namespace Binary

variable {b : Binary} {n : Int}

/-- The exact value of a finite number. -/
def value? : Binary → Option ℚ
  | .finite negative mantissa exponent =>
    some ((if negative then -1 else 1) * (mantissa * 2 ^ exponent))
  | _ => none

/-- The size of a number without a fraction. -/
theorem size_eq {negative : Bool} {mantissa : Nat} {exponent : Int}
    (h : (finite negative mantissa exponent).isWhole = true) :
    ((if 0 ≤ exponent then mantissa * Nat.pow 2 exponent.toNat
      else mantissa / Nat.pow 2 (-exponent).toNat : Nat) : ℚ) = mantissa * 2 ^ exponent := by
  by_cases hexponent : 0 ≤ exponent
  · obtain ⟨k, rfl⟩ := Int.eq_ofNat_of_zero_le hexponent
    simp
  · obtain ⟨k, rfl⟩ : ∃ k : Nat, exponent = -(k : Int) := ⟨(-exponent).toNat, by omega⟩
    rw [isWhole, if_neg hexponent, beq_iff_eq, neg_neg, Int.toNat_natCast] at h
    obtain ⟨q, rfl⟩ : 2 ^ k ∣ mantissa := Nat.dvd_of_mod_eq_zero h
    have hpos : 0 < 2 ^ k := by positivity
    rw [if_neg hexponent, neg_neg, Int.toNat_natCast, Nat.pow_eq, Nat.mul_div_cancel_left q hpos,
      zpow_neg, zpow_natCast]
    push_cast
    field_simp

/-- A number whose size is whole has no fraction. -/
theorem isWhole_of_size {negative : Bool} {mantissa size : Nat} {exponent : Int}
    (h : (mantissa * 2 ^ exponent : ℚ) = size) :
    (finite negative mantissa exponent).isWhole = true := by
  by_cases hexponent : 0 ≤ exponent
  · rw [isWhole, if_pos hexponent]
  · obtain ⟨k, rfl⟩ : ∃ k : Nat, exponent = -(k : Int) := ⟨(-exponent).toNat, by omega⟩
    have hmantissa : mantissa = 2 ^ k * size := by
      rw [zpow_neg, zpow_natCast] at h
      field_simp at h
      exact_mod_cast h
    rw [isWhole, if_neg hexponent, neg_neg, Int.toNat_natCast, hmantissa, beq_iff_eq]
    exact Nat.mul_mod_right (2 ^ k) size

/-- A number without a fraction has an integer for its value, which is what is left when the fraction
is cut off. -/
theorem value?_of_isWhole (h : b.isWhole = true) :
    ∃ n : Int, b.truncated? = some n ∧ b.value? = some (n : ℚ) := by
  cases b with
  | finite negative mantissa exponent =>
      refine ⟨_, rfl, ?_⟩
      rw [value?, ← size_eq h]
      cases negative <;>
        simp only [if_true, Bool.false_eq_true, if_false, one_mul, neg_one_mul, Int.cast_neg,
          Int.cast_natCast]
  | infinite => cases h
  | nan => cases h

/-- A number whose value is an integer has no fraction. -/
theorem isWhole_of_value? (h : b.value? = some (n : ℚ)) : b.isWhole = true := by
  cases b with
  | finite negative mantissa exponent =>
      have hvalue := Option.some.inj h
      have hnonneg : (0 : ℚ) ≤ mantissa * 2 ^ exponent := by positivity
      have hsize : (mantissa * 2 ^ exponent : ℚ) = n.natAbs := by
        rw [Nat.cast_natAbs, Int.cast_abs, ← hvalue]
        cases negative <;> simp [abs_of_nonneg hnonneg]
      exact isWhole_of_size hsize
  | infinite => cases h
  | nan => cases h

/-- What is left of a number in a range: its value, or the nearer end of the range. -/
theorem clamped_eq (h : b.value? = some (n : ℚ)) (low high : Int) :
    b.clamped low high = max low (min high n) := by
  obtain ⟨m, htruncated, hvalue⟩ := value?_of_isWhole (isWhole_of_value? h)
  obtain rfl : m = n := by
    rw [hvalue, Option.some.injEq] at h
    exact_mod_cast h
  cases b with
  | finite => rw [clamped, htruncated, Option.getD_some]
  | infinite => cases h
  | nan => cases h

end Binary

/-! ### Decimal integers -/

/-- The number that some decimal digits are. -/
def decimalValue (digits : List Char) : Nat :=
  Nat.ofDigits 10 (digits.reverse.map fun c => c.toNat - '0'.toNat)

/-- One or more digits. -/
def AreDigits (cs : List Char) : Prop := cs ≠ [] ∧ ∀ c ∈ cs, isDigit c = true

/-- A text that is a decimal integer: digits, after a sign or without one. -/
inductive DecimalInteger : List Char → Int → Prop
  | unsigned {digits : List Char} (h : AreDigits digits) :
    DecimalInteger digits (decimalValue digits)
  | plus {digits : List Char} (h : AreDigits digits) :
    DecimalInteger ('+' :: digits) (decimalValue digits)
  | minus {digits : List Char} (h : AreDigits digits) :
    DecimalInteger ('-' :: digits) (-decimalValue digits)

theorem digit?_of_isDigit {c : Char} (h : isDigit c = true) :
    digit? c = some (c.toNat - '0'.toNat) := by
  unfold isDigit digit? at *
  split at h
  case isTrue hrange => rw [if_pos hrange]
  case isFalse => cases h

/-- Digits read from the front on are a decimal number. -/
theorem digitsFrom_eq {digits : List Char} (h : ∀ c ∈ digits, isDigit c = true) :
    digitsFrom 0 digits = decimalValue digits := by
  induction digits using List.reverseRecOn with
  | nil => rfl
  | append_singleton digits c ih =>
      rw [List.forall_mem_append, List.forall_mem_singleton] at h
      have hstep : digitsFrom 0 (digits ++ [c]) = 10 * digitsFrom 0 digits + (digit? c).getD 0 :=
        List.foldl_append
      rw [hstep, ih h.1, digit?_of_isDigit h.2, Option.getD_some, decimalValue, decimalValue,
        List.reverse_concat, List.map_cons, Nat.ofDigits_cons, Nat.add_comm]

theorem natOfChars?_eq_some_iff {cs : List Char} {n : Nat} :
    natOfChars? cs = some n ↔ AreDigits cs ∧ n = decimalValue cs := by
  have hall : (cs.isEmpty || !cs.all isDigit) = true ↔ ¬AreDigits cs := by
    rw [AreDigits, ← List.all_eq_true, ← List.isEmpty_eq_false_iff]
    cases cs.isEmpty <;> cases cs.all isDigit <;> decide
  rw [natOfChars?]
  by_cases h : AreDigits cs
  · rw [if_neg (mt hall.1 (not_not.2 h)), digitsFrom_eq h.2, Option.some.injEq]
    exact ⟨fun heq => ⟨h, heq.symm⟩, fun heq => heq.2.symm⟩
  · rw [if_pos (hall.2 h)]
    exact iff_of_false nofun fun hn => h hn.1

section Signs

variable {cs : List Char} {n : Int}

theorem decimalInteger_plus_iff :
    DecimalInteger ('+' :: cs) n ↔ AreDigits cs ∧ n = decimalValue cs := by
  constructor
  · rintro (⟨-, h⟩ | h)
    · exact absurd (h '+' List.mem_cons_self) (by decide)
    · exact ⟨h, rfl⟩
  · rintro ⟨h, rfl⟩
    exact .plus h

theorem decimalInteger_minus_iff :
    DecimalInteger ('-' :: cs) n ↔ AreDigits cs ∧ n = -decimalValue cs := by
  constructor
  · rintro (⟨-, h⟩ | h | h)
    · exact absurd (h '-' List.mem_cons_self) (by decide)
    · exact ⟨h, rfl⟩
  · rintro ⟨h, rfl⟩
    exact .minus h

theorem decimalInteger_iff_of_unsigned (hplus : ∀ digits, cs ≠ '+' :: digits)
    (hminus : ∀ digits, cs ≠ '-' :: digits) :
    DecimalInteger cs n ↔ AreDigits cs ∧ n = decimalValue cs := by
  constructor
  · rintro (h | h | h)
    · exact ⟨h, rfl⟩
    · exact absurd rfl (hplus _)
    · exact absurd rfl (hminus _)
  · rintro ⟨h, rfl⟩
    exact .unsigned h

/-- A text is one decimal integer at most. -/
theorem DecimalInteger.unique {m : Int} (hn : DecimalInteger cs n) (hm : DecimalInteger cs m) :
    n = m := by
  cases hn with
  | unsigned h =>
      have hplus : ∀ digits, cs ≠ '+' :: digits := by
        rintro digits rfl
        exact absurd (h.2 '+' List.mem_cons_self) (by decide)
      have hminus : ∀ digits, cs ≠ '-' :: digits := by
        rintro digits rfl
        exact absurd (h.2 '-' List.mem_cons_self) (by decide)
      exact ((decimalInteger_iff_of_unsigned hplus hminus).1 hm).2.symm
  | plus h => exact (decimalInteger_plus_iff.1 hm).2.symm
  | minus h => exact (decimalInteger_minus_iff.1 hm).2.symm

/-- Digits that are read are given on as another number. -/
theorem map_natOfChars?_eq_some_iff {f : Nat → Int} :
    (natOfChars? cs).map f = some n ↔ AreDigits cs ∧ n = f (decimalValue cs) := by
  rw [Option.map_eq_some_iff]
  constructor
  · rintro ⟨m, hm, rfl⟩
    obtain ⟨hdigits, rfl⟩ := natOfChars?_eq_some_iff.1 hm
    exact ⟨hdigits, rfl⟩
  · rintro ⟨hdigits, rfl⟩
    exact ⟨_, natOfChars?_eq_some_iff.2 ⟨hdigits, rfl⟩, rfl⟩

end Signs

/-- A text is read as a whole number exactly if it is a decimal integer within the bounds. -/
theorem intWithin?_eq_some_iff {low high n : Int} (hlow : low < 0) {text : String} :
    intWithin? low high text = some n ↔ DecimalInteger text.toList n ∧ low ≤ n ∧ n ≤ high := by
  have hlast {read : Option Int} :
      (read.bind fun m => if low ≤ m ∧ m ≤ high then some m else none) = some n ↔
        read = some n ∧ low ≤ n ∧ n ≤ high := by
    rw [Option.bind_eq_some_iff]
    constructor
    · rintro ⟨m, hread, hm⟩
      obtain ⟨hbounds, hmn⟩ := Option.ite_none_right_eq_some.1 hm
      obtain rfl := Option.some.inj hmn
      exact ⟨hread, hbounds⟩
    · rintro ⟨hread, hbounds⟩
      exact ⟨n, hread, by rw [if_pos hbounds]⟩
  unfold intWithin?
  dsimp only
  split
  · rename_i cs htext
    rw [htext, decimalInteger_plus_iff]
    exact hlast.trans (and_congr_left' map_natOfChars?_eq_some_iff)
  · rename_i cs htext
    rw [htext, decimalInteger_minus_iff, if_pos hlow]
    exact hlast.trans (and_congr_left' map_natOfChars?_eq_some_iff)
  · rename_i hplus hminus
    rw [decimalInteger_iff_of_unsigned hplus hminus]
    exact hlast.trans (and_congr_left' map_natOfChars?_eq_some_iff)

theorem int64?_eq_some_iff {text : String} {n : Int} :
    int64? text = some n ↔ DecimalInteger text.toList n ∧ minInt64 ≤ n ∧ n ≤ maxInt64 :=
  intWithin?_eq_some_iff (by decide)

end GeoLayers.Number
