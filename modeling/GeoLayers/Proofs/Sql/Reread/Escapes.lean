import GeoLayers.Proofs.Sql.Reread.Quotes
import Mathlib.Algebra.Group.Nat.Defs

/-!
Reading a text with escapes again. Hexadecimal digits between quotes are written as they are, so
they read as themselves just when no quote and no backslash is among them. The other two kinds
of text with escapes are written so that every body reads as itself.
-/

namespace GeoLayers.Sql.Scan

/-- A quote or a backslash. -/
def escapes (c : Char) : Bool := c == '\'' || c == '\\'

theorem backslashedBody_of_not_escapes {c : Char} (cs : List Char) (h : escapes c = false) :
    backslashedBody (c :: cs) = (backslashedBody cs).map fun r => (c :: r.1, r.2) := by
  simp only [escapes, Bool.or_eq_false_iff, beq_eq_false_iff_ne] at h
  rw [backslashedBody.eq_def]
  split
  · next heq => cases heq
  · next heq => exact absurd (List.cons.inj heq).1 h.1
  · next heq => exact absurd (List.cons.inj heq).1 h.1
  · next heq => exact absurd (List.cons.inj heq).1 h.2
  · next heq =>
    obtain ⟨rfl, rfl⟩ := List.cons.inj heq
    rfl

theorem backslashedBody_pair (cs : List Char) :
    backslashedBody ('\'' :: '\'' :: cs) = (backslashedBody cs).map fun r => ('\'' :: r.1, r.2) := by
  rw [backslashedBody]

theorem backslashedBody_end {cs : List Char} (h : cs.head? ≠ some '\'') :
    backslashedBody ('\'' :: cs) = some ([], cs) := by
  cases cs with
  | nil => rfl
  | cons c cs =>
      rw [backslashedBody]
      intro rest heq
      simp [heq] at h

theorem backslashedBody_escape (c : Char) (cs : List Char) :
    backslashedBody ('\\' :: c :: cs) =
      (backslashedBody cs).map fun r => (controlCharacter c :: r.1, r.2) := by
  rw [backslashedBody]

/-- A letter after a backslash stands for no quote and no backslash. -/
theorem eq_of_escapes_controlCharacter {c : Char} (h : escapes (controlCharacter c) = true) :
    controlCharacter c = c := by
  unfold controlCharacter at h ⊢
  split <;> first | rfl | exact absurd h (by decide)

/-- What is read ends at once, or starts with a quote or a backslash, only where one stands. -/
theorem head_of_backslashedBody {c : Char} {cs body rest : List Char} (hc : escapes c = false)
    (h : backslashedBody (c :: cs) = some (body, rest)) : body.head? = some c := by
  rw [backslashedBody_of_not_escapes cs hc] at h
  obtain ⟨r, -, hr⟩ := Option.map_eq_some_iff.1 h
  obtain ⟨rfl, -⟩ := Prod.mk.inj hr
  rfl

/-- What may follow a text: neither a quote nor a backslash. -/
def Plainly (after : List Char) : Prop := ∀ c ∈ after.head?, escapes c = false

theorem Plainly.head_ne {after : List Char} (h : Plainly after) : after.head? ≠ some '\'' :=
  fun hq => by simpa [escapes] using h _ hq

/-- What is read before anything else is read starts plainly. -/
theorem Plainly.of_backslashedBody {after body rest : List Char} (h : Plainly after)
    (hread : backslashedBody after = some (body, rest)) : ∃ c ∈ body.head?, escapes c = false := by
  cases after with
  | nil => cases hread
  | cons c cs =>
      have hc := h c rfl
      exact ⟨c, head_of_backslashedBody hc hread, hc⟩

/-- Where a quote or a backslash is read as one, it has taken up the next character of the body, a
quote or a backslash too, or else the closing quote. -/
theorem next_of_escapes {after body read rest : List Char} {c c' : Char} (hafter : Plainly after)
    (hc : escapes c = true) (hc' : escapes c' = true)
    (h : backslashedBody (c :: (body ++ '\'' :: after)) = some (c' :: read, rest)) :
    (∃ b more, body = b :: more ∧ escapes b = true ∧
      backslashedBody (more ++ '\'' :: after) = some (read, rest)) ∨
      body = [] ∧ ∃ b ∈ read.head?, escapes b = false := by
  by_cases hquote : c = '\''
  · subst hquote
    cases body with
    | nil =>
        rw [List.nil_append, backslashedBody_pair, map_cons_eq_some] at h
        exact .inr ⟨rfl, hafter.of_backslashedBody h.2⟩
    | cons b more =>
        by_cases hb : b = '\''
        · subst hb
          rw [List.cons_append, backslashedBody_pair, map_cons_eq_some] at h
          exact .inl ⟨_, more, rfl, rfl, h.2⟩
        · rw [List.cons_append, backslashedBody_end (by simpa using hb)] at h
          cases h
  · obtain rfl : c = '\\' := by simpa [escapes, hquote] using hc
    cases body with
    | nil =>
        rw [List.nil_append, backslashedBody_escape, map_cons_eq_some] at h
        exact .inr ⟨rfl, hafter.of_backslashedBody h.2⟩
    | cons b more =>
        rw [List.cons_append, backslashedBody_escape, map_cons_eq_some] at h
        rw [← h.1] at hc'
        have hb : escapes b = true := eq_of_escapes_controlCharacter hc' ▸ hc'
        exact .inl ⟨b, more, rfl, hb, h.2⟩

/-- Once the reader has more quotes and backslashes than the body, it stays ahead. -/
theorem backslashedBody_ne_ahead {after : List Char} (hafter : Plainly after)
    (body rest : List Char) {ahead : List Char} (hne : ahead ≠ [])
    (hahead : ∀ c ∈ ahead, escapes c = true) :
    backslashedBody (body ++ '\'' :: after) ≠ some (ahead ++ body, rest) := by
  intro hread
  obtain ⟨c', ahead, rfl⟩ := List.exists_cons_of_ne_nil hne
  obtain ⟨hc', hahead⟩ := List.forall_mem_cons.1 hahead
  rw [List.cons_append] at hread
  cases body with
  | nil =>
      rw [List.nil_append, backslashedBody_end hafter.head_ne] at hread
      cases hread
  | cons c body =>
      rw [List.cons_append] at hread
      cases hc : escapes c with
      | false =>
          rw [backslashedBody_of_not_escapes _ hc, map_cons_eq_some] at hread
          rw [← hread.1, hc] at hc'
          cases hc'
      | true =>
          obtain ⟨b, more, rfl, hb, hmore⟩ | ⟨rfl, b, hb, hplain⟩ :=
            next_of_escapes hafter hc hc' hread
          · have hboth : ∀ a ∈ ahead ++ [c, b], escapes a = true :=
              List.forall_mem_append.2 ⟨hahead, by simp [hc, hb]⟩
            refine backslashedBody_ne_ahead hafter more rest (by simp) hboth ?_
            rw [hmore, List.append_assoc]
            rfl
          -- What follows the text has nothing to make up for the characters that are missing.
          · have hmem : b ∈ ahead ++ [c] := List.mem_of_mem_head? hb
            have hescapes : ∀ a ∈ ahead ++ [c], escapes a = true :=
              List.forall_mem_append.2 ⟨hahead, by simp [hc]⟩
            rw [hescapes b hmem] at hplain
            cases hplain
termination_by body.length

/-- Hexadecimal digits read as themselves just when no quote and no backslash is among them. -/
theorem backslashedBody_eq_some {after : List Char} (hafter : Plainly after)
    {body rest : List Char} :
    backslashedBody (body ++ '\'' :: after) = some (body, rest) ↔
      (∀ c ∈ body, escapes c = false) ∧ rest = after := by
  induction body with
  | nil =>
      rw [List.nil_append, backslashedBody_end hafter.head_ne, Option.some.injEq, Prod.mk.injEq,
        and_iff_right rfl, and_iff_right (List.forall_mem_nil _)]
      exact eq_comm
  | cons c body ih =>
      rw [List.forall_mem_cons, and_assoc, ← ih, List.cons_append]
      cases hc : escapes c with
      | false => simp only [backslashedBody_of_not_escapes _ hc, map_cons_eq_some, true_and]
      | true =>
          simp only [reduceCtorEq, false_and, iff_false]
          intro hread
          obtain ⟨b, more, rfl, hb, hmore⟩ | ⟨rfl, b, hb, -⟩ := next_of_escapes hafter hc hc hread
          · exact backslashedBody_ne_ahead hafter more rest (List.cons_ne_nil b [])
              (by simpa using hb) hmore
          · cases hb

/-- What is written for a character in a text with backslash escapes reads as the character. -/
theorem escapedBody_escapedChar (fuel : Nat) (c : Char) (cs : List Char) :
    escapedBody (fuel + 1) (escapedChar c ++ cs) =
      (escapedBody fuel cs).map fun r => (c :: r.1, r.2) := by
  by_cases hc : c = '\'' ∨ c = '\\' ∨ c = '\n' ∨ c = '\t' ∨ c = '\r'
  · rcases hc with rfl | rfl | rfl | rfl | rfl <;> rfl
  · simp only [not_or] at hc
    have hwritten : escapedChar c = [c] := by
      unfold escapedChar
      split <;> simp_all
    rw [hwritten, List.singleton_append, escapedBody]
    · rintro cs rfl rfl
      exact hc.1 rfl
    · exact hc.1
    · exact hc.2.1

theorem length_le_flatMap {f : Char → List Char} (h : ∀ c, f c ≠ []) (cs : List Char) :
    cs.length ≤ (cs.flatMap f).length := by
  induction cs with
  | nil => simp
  | cons c cs ih =>
      have hpos := List.length_pos_iff.2 (h c)
      simp only [List.flatMap_cons, List.length_append, List.length_cons]
      omega

theorem escapedChar_ne_nil (c : Char) : escapedChar c ≠ [] := by
  unfold escapedChar
  split <;> simp

theorem unicodeChar_ne_nil (c : Char) : unicodeChar c ≠ [] := by
  unfold unicodeChar
  repeat' split
  all_goals simp

/-- Every body of a text with backslash escapes reads as itself. -/
theorem escapedBody_written {after : List Char} (hafter : after.head? ≠ some '\'') (body : List Char) :
    ∀ fuel, body.length < fuel →
      escapedBody fuel (body.flatMap escapedChar ++ '\'' :: after) = some (body, after) := by
  induction body with
  | nil =>
      intro fuel hfuel
      cases fuel with
      | zero => simp at hfuel
      | succ fuel =>
          rw [List.flatMap_nil, List.nil_append, escapedBody]
          rintro cs rfl
          simp at hafter
  | cons c body ih =>
      intro fuel hfuel
      cases fuel with
      | zero => simp at hfuel
      | succ fuel =>
          rw [List.flatMap_cons, List.append_assoc, escapedBody_escapedChar,
            ih fuel (by simpa using hfuel)]
          rfl

theorem digitValue_hexDigit {d : Nat} (h : d < 16) :
    digitValue? 16 (Nat.digitChar d).toUpper = some d := by
  decide +revert

@[simp] theorem length_hexDigits (width n : Nat) : (hexDigits width n).length = width := by
  induction width generalizing n with
  | zero => rfl
  | succ width ih => simp [hexDigits, ih]

/-- The digits of a number have its value, up to the width. -/
theorem digitsValue_hexDigits (width n : Nat) :
    digitsValue? 16 (hexDigits (width + 1) n) = some (n % 16 ^ (width + 1)) := by
  have hfold (width n : Nat) : (hexDigits width n).foldl
      (fun acc c => do pure ((← acc) * 16 + (← digitValue? 16 c))) (some 0) =
      some (n % 16 ^ width) := by
    induction width generalizing n with
    | zero => simp [hexDigits, Nat.mod_one]
    | succ width ih =>
        rw [hexDigits, List.foldl_append, ih, List.foldl_cons, List.foldl_nil,
          digitValue_hexDigit (Nat.mod_lt n (by decide))]
        have hpow : n % 16 ^ (width + 1) = n / 16 % 16 ^ width * 16 + n % 16 := by
          rw [Nat.pow_succ', Nat.mod_mul]
          omega
        rw [hpow]
        rfl
  unfold digitsValue?
  split
  · next heq => simpa [heq] using length_hexDigits (width + 1) n
  · exact hfold (width + 1) n

theorem scalar_toNat (c : Char) : scalar? c.toNat = some c := by
  have hvalid := c.valid
  simp only [UInt32.isValidChar, Nat.isValidChar] at hvalid
  have hn : (c.toNat < 0xD800 || (0xDFFF < c.toNat && c.toNat < 0x110000)) = true := by
    simp only [Bool.or_eq_true, Bool.and_eq_true, decide_eq_true_eq]
    exact hvalid
  rw [scalar?, if_pos hn, Char.ofNat_toNat]

/-- A code point written with enough digits reads as the character. -/
theorem codePoint_hexDigits {width : Nat} {c : Char} (h : c.toNat < 16 ^ (width + 1))
    (cs : List Char) :
    codePoint? (width + 1) (hexDigits (width + 1) c.toNat ++ cs) = some (c, cs) := by
  have htake : (hexDigits (width + 1) c.toNat ++ cs).take (width + 1) =
      hexDigits (width + 1) c.toNat := List.take_left' (length_hexDigits _ _)
  have hdrop : (hexDigits (width + 1) c.toNat ++ cs).drop (width + 1) = cs :=
    List.drop_left' (length_hexDigits _ _)
  simp [codePoint?, htake, hdrop, digitsValue_hexDigits, Nat.mod_eq_of_lt h, scalar_toNat]

/-- A hexadecimal digit is neither a backslash nor a plus sign, so the digits after a backslash are
not taken for another escape. -/
theorem exists_hexDigits (width n : Nat) : ∃ d cs, hexDigits (width + 1) n = d :: cs ∧
    d ≠ '\\' ∧ d ≠ '+' := by
  induction width generalizing n with
  | zero =>
      refine ⟨(Nat.digitChar (n % 16)).toUpper, [], rfl, ?_⟩
      have hlt : n % 16 < 16 := Nat.mod_lt n (by decide)
      revert hlt
      generalize n % 16 = m
      decide +revert
  | succ width ih =>
      obtain ⟨d, cs, hcs, hd⟩ := ih (n / 16)
      refine ⟨d, cs ++ [(Nat.digitChar (n % 16)).toUpper], ?_, hd⟩
      rw [hexDigits, hcs, List.cons_append]

/-- What is written for a character in a text with code points reads as the character. -/
theorem unicodeBody_unicodeChar (fuel : Nat) (c : Char) (cs : List Char) :
    unicodeBody (fuel + 1) (unicodeChar c ++ cs) =
      (unicodeBody fuel cs).map fun r => (c :: r.1, r.2) := by
  unfold unicodeChar
  split
  · next hc =>
    obtain rfl := beq_iff_eq.1 hc
    rfl
  split
  · next hc =>
    obtain rfl := beq_iff_eq.1 hc
    rfl
  next hquote hslash =>
  rw [beq_iff_eq] at hquote hslash
  split
  · rw [List.singleton_append, unicodeBody]
    · rintro cs rfl rfl
      exact hquote rfl
    · exact hquote
    all_goals
      intros
      exact hslash ‹_›
  split
  · next hsmall =>
    have hlt : c.toNat < 16 ^ (3 + 1) := by omega
    have hread := codePoint_hexDigits hlt cs
    obtain ⟨d, ds, hds, hd⟩ := exists_hexDigits 3 c.toNat
    rw [hds, List.cons_append] at hread
    rw [hds, List.cons_append, List.cons_append, unicodeBody, hread]
    · rfl
    · exact fun cs heq => hd.1 (List.cons.inj heq).1
    · exact fun cs heq => hd.2 (List.cons.inj heq).1
  · have hlt : c.toNat < 16 ^ 6 := by
      have hvalid := c.valid
      simp only [UInt32.isValidChar, Nat.isValidChar] at hvalid
      change c.toNat < _ ∨ _ < c.toNat ∧ c.toNat < _ at hvalid
      omega
    rw [List.cons_append, List.cons_append, unicodeBody, codePoint_hexDigits hlt]
    rfl

/-- Every body of a text with code points reads as itself. -/
theorem unicodeBody_written {after : List Char} (hafter : after.head? ≠ some '\'') (body : List Char) :
    ∀ fuel, body.length < fuel →
      unicodeBody fuel (body.flatMap unicodeChar ++ '\'' :: after) = some (body, after) := by
  induction body with
  | nil =>
      intro fuel hfuel
      cases fuel with
      | zero => simp at hfuel
      | succ fuel =>
          rw [List.flatMap_nil, List.nil_append, unicodeBody]
          rintro cs rfl
          simp at hafter
  | cons c body ih =>
      intro fuel hfuel
      cases fuel with
      | zero => simp at hfuel
      | succ fuel =>
          rw [List.flatMap_cons, List.append_assoc, unicodeBody_unicodeChar,
            ih fuel (by simpa using hfuel)]
          rfl

end GeoLayers.Sql.Scan
