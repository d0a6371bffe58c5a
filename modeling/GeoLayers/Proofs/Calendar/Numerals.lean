import GeoLayers.Calendar.Reader
import GeoLayers.Proofs.Number.Exact
import GeoLayers.Proofs.Number.Finite
import GeoLayers.Proofs.Query.Names
import Mathlib.Tactic.Ring

/-!
The numbers in the texts of moments: a number with leading zeros is read back from as many digits as
it was given, and so is the part of a second that the digits behind a point are.
-/

namespace GeoLayers

namespace Number

theorem digit_range {c : Char} (h : isDigit c = true) : 48 ≤ c.toNat ∧ c.toNat ≤ 57 := by
  unfold isDigit Number.digit? at h
  split at h
  case isTrue hbounds => exact hbounds
  case isFalse => cases h

theorem isBlank_of_isDigit {c : Char} (h : isDigit c = true) : Text.isBlank c = false := by
  have hrange := digit_range h
  unfold Text.isBlank
  simp only [Bool.or_eq_false_iff, Bool.and_eq_false_iff, decide_eq_false_iff_not, beq_eq_false_iff_ne]
  omega

theorem digitsFrom_eq_ofDigitChars {digits : List Char} (h : ∀ c ∈ digits, isDigit c = true)
    (start : Nat) : digitsFrom start digits = Nat.ofDigitChars 10 digits start := by
  unfold digitsFrom Nat.ofDigitChars
  apply List.foldl_ext
  intro n c hc
  rw [Number.digit?_of_isDigit (h c hc), Option.getD_some]

theorem decimalValue_append (kept dropped : List Char) : decimalValue (kept ++ dropped) =
    decimalValue kept * 10 ^ dropped.length + decimalValue dropped := by
  simp only [decimalValue, List.reverse_append, List.map_append, Nat.ofDigits_append,
    List.length_map, List.length_reverse]
  rw [Nat.add_comm, Nat.mul_comm]

theorem decimalValue_lt {digits : List Char} (h : ∀ c ∈ digits, isDigit c = true) :
    decimalValue digits < 10 ^ digits.length := by
  rw [← List.length_reverse, ← List.length_map (f := fun c : Char => c.toNat - '0'.toNat)]
  apply Nat.ofDigits_lt_base_pow_length (by decide)
  intro n hn
  obtain ⟨c, hc, rfl⟩ := List.mem_map.1 hn
  have hrange := digit_range (h c (List.mem_reverse.1 hc))
  change c.toNat - 48 < 10
  omega

end Number

namespace Calendar

open Number

/-! ### Numbers of fixed width -/

section Padded

variable {width n : Nat}

theorem toList_padded : (Moment.padded width n).toList =
    List.replicate (width - (toString n).length) '0' ++ Nat.toDigits 10 n := by
  rw [Moment.padded, String.toList_append, String.toList_ofList, Nat.toString_eq_repr,
    Nat.toList_repr]

theorem isDigit_of_mem_padded {c : Char} (h : c ∈ (Moment.padded width n).toList) :
    isDigit c = true := by
  rw [toList_padded] at h
  rcases List.mem_append.1 h with h | h
  · rw [List.eq_of_mem_replicate h]
    rfl
  · exact isDigit_of_mem_toDigits h

theorem length_padded (hwidth : 0 < width) (h : n < 10 ^ width) :
    (Moment.padded width n).toList.length = width := by
  have hlength : (toString n).length = (Nat.toDigits 10 n).length := by
    rw [← String.length_toList, Nat.toString_eq_repr, Nat.toList_repr]
  have hbound := Nat.toDigits_length 10 n width hwidth h
  rw [toList_padded, List.length_append, List.length_replicate, hlength]
  omega

theorem digitsFrom_padded : digitsFrom 0 (Moment.padded width n).toList = n := by
  rw [digitsFrom_eq_ofDigitChars fun c => isDigit_of_mem_padded, toList_padded]
  have hzeros (k : Nat) (digits : List Char) :
      Nat.ofDigitChars 10 (List.replicate k '0' ++ digits) 0 = Nat.ofDigitChars 10 digits 0 := by
    induction k with
    | zero => rfl
    | succ k ih => exact ih
  rw [hzeros, Nat.ofDigitChars_toDigits (by decide) (by decide)]

theorem padded_eq_cons (hwidth : 0 < width) (h : n < 10 ^ width) :
    ∃ c cs, (Moment.padded width n).toList = c :: cs ∧ isDigit c = true := by
  obtain ⟨c, cs, hcons⟩ := List.exists_cons_of_length_pos
    (hwidth.trans_eq (length_padded hwidth h).symm)
  exact ⟨c, cs, hcons, isDigit_of_mem_padded (hcons ▸ List.mem_cons_self)⟩

end Padded

/-! ### Reading numbers -/

namespace Reader

variable {width n : Nat} {rest : List Char}

@[simp]
theorem char_cons (c : Char) : char c (c :: rest) = some rest := if_pos (beq_self_eq_true c)

theorem bind_of_eq_some {α β : Type} {x : Option α} {a : α} (h : x = some a) {f : α → Option β} :
    x >>= f = f a := by
  rw [h]
  rfl

/-- As many digits as are allowed are read, whatever follows. -/
theorem digits_append {run : List Char} {least : Nat} (hrun : ∀ c ∈ run, isDigit c = true)
    (hleast : least ≤ run.length) :
    digits least run.length (run ++ rest) = some (digitsFrom 0 run, rest) := by
  have htake : ((run ++ rest).take run.length).takeWhile isDigit = run := by
    rw [List.take_left, List.takeWhile_eq_self_iff]
    exact hrun
  rw [digits, htake, if_neg (Nat.not_lt.2 hleast), List.drop_left]

theorem digits_padded {least : Nat} (hleast : least ≤ width) (hwidth : 0 < width)
    (h : n < 10 ^ width) :
    digits least width ((Moment.padded width n).toList ++ rest) = some (n, rest) := by
  have hlength := length_padded hwidth h
  have hread := @digits_append rest _ least (fun c => isDigit_of_mem_padded (n := n))
    (hleast.trans_eq hlength.symm)
  rwa [hlength, digitsFrom_padded] at hread

theorem two_padded (h : n < 100) :
    digits 2 2 ((Moment.padded 2 n).toList ++ rest) = some (n, rest) :=
  digits_padded le_rfl Nat.two_pos h

theorem four_padded (h : n < 10000) :
    digits 4 4 ((Moment.padded 4 n).toList ++ rest) = some (n, rest) :=
  digits_padded le_rfl (by decide) h

theorem trimStart_padded (hwidth : 0 < width) (h : n < 10 ^ width) :
    Text.trimStart ((Moment.padded width n).toList ++ rest) =
      (Moment.padded width n).toList ++ rest := by
  obtain ⟨c, cs, hcons, hdigit⟩ := padded_eq_cons hwidth h
  apply Text.trimStart_eq_self
  intro d hd
  rw [hcons] at hd
  obtain rfl : c = d := Option.some.inj hd
  exact isBlank_of_isDigit hdigit

theorem small_padded (h : n < 100) : small ((Moment.padded 2 n).toList ++ rest) = some (n, rest) := by
  rw [small, trimStart_padded Nat.two_pos h]
  exact digits_padded (by omega) Nat.two_pos h

theorem year_padded (h : n < 10000) :
    year ((Moment.padded 4 n).toList ++ rest) = some ((n : Int), rest) := by
  obtain ⟨c, cs, hcons, hdigit⟩ := @padded_eq_cons 4 _ (by decide) h
  have hread : digits 1 4 ((Moment.padded 4 n).toList ++ rest) = some (n, rest) :=
    digits_padded (by decide) (by decide) h
  rw [year, trimStart_padded (by decide) h]
  rw [hcons] at hread ⊢
  rw [List.cons_append] at hread ⊢
  split
  case h_1 heq =>
    obtain ⟨rfl, -⟩ := List.cons.inj heq
    cases hdigit
  case h_2 heq =>
    obtain ⟨rfl, -⟩ := List.cons.inj heq
    cases hdigit
  case h_3 => rw [hread, Option.map_some]

end Reader

/-! ### Parts of a second -/

/-- The texts for a number of milliseconds behind the seconds: a point and digits, which are the part
of a second, or nothing where there are none. -/
inductive IsFraction (millis : Nat) : String → Prop
  | whole (h : millis = 0) : IsFraction millis ""
  | digits {digits : String} (hdigits : AreDigits digits.toList)
      (hvalue : decimalValue digits.toList * 1000 = millis * 10 ^ digits.toList.length) :
    IsFraction millis ("." ++ digits)

/-- The number of milliseconds in three digits. -/
theorem isFraction_padded (millis : Fin 1000) :
    IsFraction millis ("." ++ Moment.padded 3 millis) := by
  have hbound : (millis : Nat) < 10 ^ 3 := millis.2
  obtain ⟨c, cs, hcons, -⟩ := @padded_eq_cons 3 _ (by decide) hbound
  have hdigits : ∀ c ∈ (Moment.padded 3 millis).toList, isDigit c = true :=
    fun c => isDigit_of_mem_padded
  apply IsFraction.digits ⟨by rw [hcons]; exact List.cons_ne_nil c cs, hdigits⟩
  rw [← digitsFrom_eq hdigits, digitsFrom_padded, length_padded (by decide) hbound]
  norm_num

namespace Reader

variable {rest : List Char} {fraction : String}

/-- Digits that are a part of a second in whole milliseconds still are after the ninth has become the
last one. -/
theorem nanoseconds_eq {digits : List Char} {millis : Nat} (hdigits : AreDigits digits)
    (hvalue : decimalValue digits * 1000 = millis * 10 ^ digits.length) :
    decimalValue (digits.take 9) * 10 ^ (9 - (digits.take 9).length) = millis * 1000000 := by
  by_cases hlength : digits.length ≤ 9
  · rw [List.take_of_length_le hlength]
    apply Nat.eq_of_mul_eq_mul_right (show 0 < 1000 by decide)
    calc decimalValue digits * 10 ^ (9 - digits.length) * 1000
        = decimalValue digits * 1000 * 10 ^ (9 - digits.length) := by ring
      _ = millis * (10 ^ digits.length * 10 ^ (9 - digits.length)) := by rw [hvalue]; ring
      _ = millis * 1000000 * 1000 := by rw [← Nat.pow_add, Nat.add_sub_cancel' hlength]; ring
  · have htaken : (digits.take 9).length = 9 := List.length_take_of_le (by omega)
    have hsplit := decimalValue_append (digits.take 9) (digits.drop 9)
    have hdropped : decimalValue (digits.drop 9) < 10 ^ (digits.drop 9).length :=
      decimalValue_lt fun c hc => hdigits.2 c (List.mem_of_mem_drop hc)
    have hpower : 10 ^ digits.length = 1000000000 * 10 ^ (digits.drop 9).length := by
      rw [List.length_drop, ← Nat.add_sub_cancel' (Nat.le_of_not_le hlength), Nat.pow_add,
        Nat.add_sub_cancel_left]
    have hpositive : 0 < 10 ^ (digits.drop 9).length := Nat.pow_pos (by decide)
    have hwhole : millis * 1000000 * 10 ^ (digits.drop 9).length = decimalValue (digits.drop 9) +
        decimalValue (digits.take 9) * 10 ^ (digits.drop 9).length := by
      apply Nat.eq_of_mul_eq_mul_right (show 0 < 1000 by decide)
      rw [Nat.add_comm, ← hsplit, List.take_append_drop, hvalue, hpower]
      ring
    have hquotient := congrArg (· / 10 ^ (digits.drop 9).length) hwhole
    rw [Nat.mul_div_cancel _ hpositive, Nat.add_mul_div_right _ _ hpositive,
      Nat.div_eq_of_lt hdropped, Nat.zero_add] at hquotient
    rw [htaken, hquotient, Nat.sub_self, Nat.pow_zero, Nat.mul_one]

/-- What stands behind a fraction: neither digits, which would belong to it, nor a point. -/
def EndsFraction (rest : List Char) : Prop := ∀ c, rest.head? = some c → isDigit c = false ∧ c ≠ '.'

theorem nanoseconds_append {digits : List Char} {millis : Nat} (hdigits : AreDigits digits)
    (hvalue : decimalValue digits * 1000 = millis * 10 ^ digits.length) (hrest : EndsFraction rest) :
    nanoseconds (digits ++ rest) = some (millis * 1000000, rest) := by
  have hrun : (digits ++ rest).takeWhile isDigit = digits := by
    rw [List.takeWhile_append_of_pos hdigits.2, List.append_right_eq_self]
    cases rest with
    | nil => rfl
    | cons c rest => exact List.takeWhile_cons_of_neg (by simp [(hrest c rfl).1])
  have hkept : (digits.take 9).isEmpty = false := by
    rw [List.isEmpty_eq_false_iff, ne_eq, List.take_eq_nil_iff]
    exact fun h => h.elim (by decide) hdigits.1
  have hread : digitsFrom 0 (digits.take 9) = decimalValue (digits.take 9) :=
    digitsFrom_eq fun c hc => hdigits.2 c (List.mem_of_mem_take hc)
  have hnanos := nanoseconds_eq hdigits hvalue
  rw [nanoseconds, hrun, hkept, hread, List.drop_left]
  exact congrArg (fun nanos => some (nanos, rest)) hnanos

theorem fraction_append {millis : Nat} (h : IsFraction millis fraction) (hrest : EndsFraction rest) :
    Reader.fraction (fraction.toList ++ rest) = some (millis * 1000000, rest) := by
  cases h with
  | whole h =>
      subst h
      rw [String.toList_empty, List.nil_append]
      unfold Reader.fraction
      split
      case h_1 cs => exact absurd rfl (hrest '.' rfl).2
      case h_2 => rw [Nat.zero_mul]
  | digits hdigits hvalue =>
      rw [String.toList_append]
      exact nanoseconds_append hdigits hvalue hrest

theorem endsFraction_nil : EndsFraction [] := by
  intro c hc
  cases hc

/-! ### Ends -/

variable {width n : Nat}

/-- What ends with a character other than a blank. -/
def EndsUnblank (cs : List Char) : Prop := ∃ before last, cs = before ++ [last] ∧ Text.isBlank last = false

theorem EndsUnblank.after {cs : List Char} (h : EndsUnblank cs) (before : List Char) :
    EndsUnblank (before ++ cs) := by
  obtain ⟨middle, last, rfl, hlast⟩ := h
  exact ⟨before ++ middle, last, (List.append_assoc ..).symm, hlast⟩

theorem endsUnblank_of_areDigits {digits : List Char} (h : AreDigits digits) : EndsUnblank digits :=
  ⟨digits.dropLast, digits.getLast h.1, (List.dropLast_append_getLast h.1).symm,
    isBlank_of_isDigit (h.2 _ (List.getLast_mem h.1))⟩

theorem endsUnblank_padded (hwidth : 0 < width) (h : n < 10 ^ width) :
    EndsUnblank (Moment.padded width n).toList := by
  obtain ⟨c, cs, hcons, -⟩ := padded_eq_cons hwidth h
  exact endsUnblank_of_areDigits
    ⟨by rw [hcons]; exact List.cons_ne_nil c cs, fun c => isDigit_of_mem_padded⟩

end Reader

end Calendar

end GeoLayers
