import GeoLayers.Proofs.Sql.Reread.Scanner

/-!
Reading a number again. A number that reads as itself where nothing follows it reads as itself in
front of a blank, a closing bracket and a comma too, since none of them goes on with a number.
-/

namespace GeoLayers.Sql.Scan

theorem digitRun_append {p : Char → Bool} (hp : p ' ' = false ∧ p ')' = false ∧ p ',' = false)
    {after : List Char} (hafter : atBreak after.head? = true) (cs : List Char) :
    digitRun p (cs ++ after) = ((digitRun p cs).1, (digitRun p cs).2 ++ after) := by
  induction cs with
  | nil =>
      cases after with
      | nil => rfl
      | cons d after =>
          have hd : (p d || d == '_' &&
              after.head?.any fun d => (digitValue? 16 d).isSome) = false := by
            obtain rfl | rfl | rfl := mem_of_atBreak hafter d rfl <;> simp [hp]
          simp [digitRun, hd]
  | cons c cs ih =>
      have hhead : ((cs ++ after).head?.any fun d => (digitValue? 16 d).isSome) =
          (cs.head?.any fun d => (digitValue? 16 d).isSome) := by
        cases cs with
        | nil =>
            cases after with
            | nil => rfl
            | cons d after => obtain rfl | rfl | rfl := mem_of_atBreak hafter d rfl <;> rfl
        | cons d cs => rfl
      simp only [List.cons_append, digitRun, hhead, ih]
      split <;> rfl

theorem takeWhile_append_of_head {p : Char → Bool} {after : List Char}
    (hafter : ∀ d ∈ after.head?, p d = false) (cs : List Char) :
    (cs ++ after).takeWhile p = cs.takeWhile p ∧
      (cs ++ after).dropWhile p = cs.dropWhile p ++ after := by
  induction cs with
  | nil =>
      cases after with
      | nil => exact ⟨rfl, rfl⟩
      | cons d after => simp [hafter d rfl]
  | cons c cs ih =>
      by_cases hc : p c = true
      · simp [hc, ih]
      · simp [hc]

theorem exponentRun_append {after : List Char} (hafter : atBreak after.head? = true)
    (cs : List Char) :
    exponentRun (cs ++ after) = ((exponentRun cs).1, (exponentRun cs).2 ++ after) := by
  have hdigit : ∀ d ∈ after.head?, d.isDigit = false := by
    intro d hd
    obtain rfl | rfl | rfl := mem_of_atBreak hafter d hd <;> decide
  cases cs with
  | nil =>
      cases after with
      | nil => rfl
      | cons d after => obtain rfl | rfl | rfl := mem_of_atBreak hafter d rfl <;> rfl
  | cons e rest =>
      simp only [List.cons_append, exponentRun]
      split
      · cases rest with
        | nil =>
            cases after with
            | nil => rfl
            | cons d after => obtain rfl | rfl | rfl := mem_of_atBreak hafter d rfl <;> rfl
        | cons s more =>
            by_cases hs : s = '+' ∨ s = '-'
            · have hsign : (s == '+' || s == '-') = true := by simpa using hs
              simp only [List.cons_append, hsign, if_true, takeWhile_append_of_head hdigit more]
              split <;> rfl
            · have hsign : (s == '+' || s == '-') = false := by simpa using hs
              have hmore := takeWhile_append_of_head hdigit (s :: more)
              rw [List.cons_append] at hmore
              simp only [List.cons_append, hsign, if_false, Bool.false_eq_true, hmore]
              split <;> rfl
      · rfl

/-- What a number is after its whole digits and its fraction. -/
def numberEnd (mantissa rest : List Char) : Step :=
  if mantissa = ['.'] then give .period rest
  else
    let long := (exponentRun rest).2.head? == some 'L'
    .ok (some (.number (String.ofList (mantissa ++ (exponentRun rest).1)) long),
      if long then (exponentRun rest).2.tail else (exponentRun rest).2)

theorem numberEnd_period (rest : List Char) : numberEnd ['.'] rest = give .period rest :=
  if_pos rfl

theorem numberEnd_long {mantissa rest more : List Char} (hmantissa : mantissa ≠ ['.'])
    (h : (exponentRun rest).2 = 'L' :: more) : numberEnd mantissa rest =
      .ok (some (.number (String.ofList (mantissa ++ (exponentRun rest).1)) true), more) := by
  rw [numberEnd, if_neg hmantissa]
  simp [h]

theorem numberEnd_short {mantissa rest : List Char} (hmantissa : mantissa ≠ ['.'])
    (h : ∀ more, (exponentRun rest).2 ≠ 'L' :: more) : numberEnd mantissa rest =
      .ok (some (.number (String.ofList (mantissa ++ (exponentRun rest).1)) false),
        (exponentRun rest).2) := by
  have hlong : ((exponentRun rest).2.head? == some 'L') = false := by
    rw [beq_eq_false_iff_ne]
    intro hhead
    obtain ⟨more, hmore⟩ := List.head?_eq_some_iff.1 hhead
    exact h more hmore
  rw [numberEnd, if_neg hmantissa]
  simp [hlong]

theorem number_eq_numberEnd {cs whole rest : List Char}
    (h : digitRun Char.isDigit cs = (whole, rest))
    (hhex : ¬(whole = ['0'] ∧ rest.head? = some 'x')) :
    number cs =
      if rest.head? = some '.' then
        let fraction := digitRun Char.isDigit rest.tail
        numberEnd (whole ++ ['.'] ++ fraction.1) fraction.2
      else
        let fraction := digitRun Char.isDigit rest
        numberEnd (whole ++ fraction.1) fraction.2 := by
  unfold number
  rw [h]
  dsimp only
  split
  · simp at hhex
  by_cases hpoint : rest.head? = some '.'
  · obtain ⟨more, rfl⟩ := List.head?_eq_some_iff.1 hpoint
    simp only [List.head?_cons, if_true, List.tail_cons]
    split
    · next hmantissa => rw [hmantissa, numberEnd_period]
    · next hmantissa =>
      split
      · next heq => exact (numberEnd_long hmantissa heq).symm
      · next hL => exact (numberEnd_short hmantissa hL).symm
  · rw [if_neg hpoint]
    have hnone : ∀ more, rest ≠ '.' :: more := by
      rintro more rfl
      exact hpoint rfl
    simp only [List.append_nil]
    split
    · next hmantissa => rw [hmantissa, numberEnd_period]
    · next hmantissa =>
      split
      · next heq => exact (numberEnd_long hmantissa heq).symm
      · next hL => exact (numberEnd_short hmantissa hL).symm

theorem numberEnd_append {after : List Char} (hafter : atBreak after.head? = true)
    (mantissa rest : List Char) :
    numberEnd mantissa (rest ++ after) =
      (numberEnd mantissa rest).map fun r => (r.1, r.2 ++ after) := by
  unfold numberEnd
  split
  · rfl
  rw [exponentRun_append hafter]
  generalize exponentRun rest = exponent
  obtain ⟨run, more⟩ := exponent
  cases more with
  | nil =>
      have hL : (after.head? == some 'L') = false :=
        beq_eq_false_iff_ne.2 (head_ne_of_atBreak hafter (by decide))
      simp [hL]
      rfl
  | cons c more =>
      by_cases hc : c = 'L'
      · simp [hc]
        rfl
      · simp [hc]
        rfl

theorem number_append {after : List Char} (hafter : atBreak after.head? = true) {cs : List Char}
    {digits : String} {long : Bool} {rest : List Char}
    (h : number cs = .ok (some (.number digits long), rest)) :
    number (cs ++ after) = .ok (some (.number digits long), rest ++ after) := by
  cases hcs : digitRun Char.isDigit cs with
  | mk whole more =>
  by_cases hhex : whole = ['0'] ∧ more.head? = some 'x'
  · obtain ⟨rfl, hx⟩ := hhex
    obtain ⟨more, rfl⟩ := List.head?_eq_some_iff.1 hx
    rw [number, hcs] at h
    cases h
  have hrun := digitRun_append (p := Char.isDigit) (by decide) hafter cs
  rw [hcs] at hrun
  dsimp only at hrun
  have hhead {c : Char} (hc : c ≠ ' ' ∧ c ≠ ')' ∧ c ≠ ',') :
      (more ++ after).head? = some c ↔ more.head? = some c := by
    cases more with
    | nil => simpa using head_ne_of_atBreak hafter hc
    | cons d more => rfl
  have hhex' : ¬(whole = ['0'] ∧ (more ++ after).head? = some 'x') := by
    rwa [hhead (by decide)]
  rw [number_eq_numberEnd hcs hhex] at h
  rw [number_eq_numberEnd hrun hhex']
  by_cases hpoint : more.head? = some '.'
  · obtain ⟨more, rfl⟩ := List.head?_eq_some_iff.1 hpoint
    rw [if_pos hpoint, List.tail_cons] at h
    rw [List.cons_append, if_pos List.head?_cons, List.tail_cons,
      digitRun_append (by decide) hafter]
    dsimp only at h ⊢
    rw [numberEnd_append hafter, h]
    rfl
  · rw [if_neg hpoint] at h
    rw [if_neg (mt (hhead (by decide)).1 hpoint), digitRun_append (by decide) hafter]
    dsimp only at h ⊢
    rw [numberEnd_append hafter, h]
    rfl

/-- Whether the text of a number starts with a digit, or with a period and a digit. -/
def startsNumber : List Char → Bool
  | [] => false
  | c :: rest => c.isDigit || (c == '.' && rest.head?.any Char.isDigit)

/-- Whether a number reads as itself. -/
def numberReads (digits : String) (long : Bool) : Bool :=
  let cs := (Token.number digits long).printed
  startsNumber cs &&
    match number cs with
    | .ok (some (.number digits' long'), []) => digits' == digits && long' == long
    | _ => false

theorem step_of_startsNumber (afterWord : Bool) {cs : List Char} (h : startsNumber cs = true) :
    step afterWord cs = number cs := by
  cases cs with
  | nil => cases h
  | cons c cs =>
      simp only [startsNumber, Bool.or_eq_true, Bool.and_eq_true, beq_iff_eq] at h
      rw [step]
      obtain hc | ⟨rfl, hhead⟩ := h
      · unfold next
        split
        all_goals first | exact absurd hc (by decide) | skip
        rw [if_pos (by simp [hc])]
      · unfold next
        split
        all_goals first
          | exact absurd hhead Bool.false_ne_true
          | exact if_pos (by decide)
          | next heq => exact absurd heq (by decide)

theorem step_number (afterWord : Bool) {digits : String} {long : Bool}
    (h : numberReads digits long = true) {after : List Char} (hafter : atBreak after.head? = true) :
    step afterWord ((Token.number digits long).printed ++ after) =
      .ok (some (.number digits long), after) := by
  unfold numberReads at h
  generalize (Token.number digits long).printed = cs at h ⊢
  simp only [Bool.and_eq_true] at h
  obtain ⟨hstart, hread⟩ := h
  have hstart' : startsNumber (cs ++ after) = true := by
    cases cs with
    | nil => cases hstart
    | cons c cs =>
        cases cs with
        | nil =>
            have hc : c.isDigit = true := by simpa [startsNumber] using hstart
            simp [startsNumber, hc]
        | cons d cs => exact hstart
  rw [step_of_startsNumber afterWord hstart']
  split at hread
  · next digits' long' heq =>
    simp only [Bool.and_eq_true, beq_iff_eq] at hread
    rw [number_append hafter heq, hread.1, hread.2]
    rfl
  · cases hread

end GeoLayers.Sql.Scan
