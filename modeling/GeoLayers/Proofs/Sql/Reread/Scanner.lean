import GeoLayers.Proofs.Sql.Reread.Escapes

/-!
How the scanner reads a token that was printed. Texts and quoted names read as themselves under
conditions on their bodies alone (`Token.legible`), and where the conditions fail they read as
other texts and names; all other tokens of a printed condition read as themselves if what follows
them does not run on (`Token.fits`).
-/

namespace GeoLayers.Sql

open Text

/-- How a token stands in a printed condition. -/
def Token.printed : Token → List Char
  | .word w => if w.quoted then (between '"' w.value).toList else w.value.toList
  | .number digits long => (Literal.number digits long).render.toList
  | .text kind body => (Literal.text kind body).render.toList
  | t => t.spelling.toList

/-- Whether a text of a kind reads as itself. -/
def Quoted.legible (kind : Quoted) (body : List Char) : Bool :=
  match kind with
  | .plain => quotesStandAlone '\'' (Char.ofNat 0) body
  | .national | .bits => !body.contains '\''
  | .doubleBits => !body.contains '"'
  | .hex => body.all fun c => !Scan.escapes c
  | .escaped | .unicode => true

/-- Whether a token reads as itself, as far as that depends on what is between its quotes. -/
def Token.legible : Token → Bool
  | .word w => !w.quoted || quotesStandAlone '"' (Char.ofNat 0) w.value.toList
  | .text kind body => kind.legible body.toList
  | _ => true

/-- Whether a token stays what it is wherever it stands: a constant or a quoted name. -/
def Token.isMark : Token → Bool
  | .word w => w.quoted
  | .number _ _ | .text _ _ => true
  | _ => false

namespace Scan

/-- One step of the scanner. -/
def step (afterWord : Bool) : List Char → Step
  | [] => .error .unexpected
  | c :: rest => next afterWord c rest

/-- Whether a text ends here or a blank, a closing bracket or a comma comes next. -/
def atBreak (next : Option Char) : Bool :=
  next == none || next == some ' ' || next == some ')' || next == some ','

theorem mem_of_atBreak {next : Option Char} (h : atBreak next = true) :
    ∀ c ∈ next, c = ' ' ∨ c = ')' ∨ c = ',' := by
  rintro c rfl
  simpa [atBreak, or_assoc] using h

theorem head_ne_of_atBreak {after : List Char} {c : Char} (h : atBreak after.head? = true)
    (hc : c ≠ ' ' ∧ c ≠ ')' ∧ c ≠ ',') : after.head? ≠ some c := by
  intro heq
  obtain rfl | rfl | rfl := mem_of_atBreak h c heq <;> simp at hc

theorem plainly_of_atBreak {after : List Char} (h : atBreak after.head? = true) : Plainly after := by
  intro c hc
  obtain rfl | rfl | rfl := mem_of_atBreak h c hc <;> rfl

/-- A body between quotes reads as itself just when its quotes stand alone. -/
theorem quotedBody_between {quote : Char} {after : List Char} (hquote : quote ≠ '\\')
    (hnul : Char.ofNat 0 ≠ quote) (hafter : after.head? ≠ some quote) {body rest : List Char} :
    quotedBody quote (doubleQuotes quote (Char.ofNat 0) body ++ quote :: after) =
      some (body, rest) ↔ quotesStandAlone quote (Char.ofNat 0) body = true ∧ rest = after := by
  rw [← doubleQuotes_eq_doubled_iff hquote (.inl hnul)]
  constructor
  · intro hread
    have hdoubled := eq_doubled_of_quotedBody hafter (.doubleQuotes quote _ body) hread
    rw [hdoubled, quotedBody_doubled hafter body] at hread
    exact ⟨hdoubled, (Prod.mk.inj (Option.some.inj hread)).2.symm⟩
  · rintro ⟨hdoubled, rfl⟩
    rw [hdoubled, quotedBody_doubled hafter body]

/-- A body that is written as it is reads as itself just when it has no quotes. -/
theorem quotedBody_plain {quote : Char} {after : List Char} (hafter : after.head? ≠ some quote)
    {body rest : List Char} :
    quotedBody quote (body ++ quote :: after) = some (body, rest) ↔
      quote ∉ body ∧ rest = after := by
  rw [← doubled_eq_self_iff]
  constructor
  · intro hread
    have hdoubled := eq_doubled_of_quotedBody hafter (.self quote body) hread
    have hself := quotedBody_doubled hafter body
    rw [← hdoubled, hread] at hself
    exact ⟨hdoubled.symm, (Prod.mk.inj (Option.some.inj hself)).2⟩
  · rintro ⟨hdoubled, rfl⟩
    have hself := quotedBody_doubled hafter body
    rwa [hdoubled] at hself

/-- What the scanner finds after the opening quote of a text. -/
def bodyOf (kind : Quoted) (cs : List Char) : Option (List Char × List Char) :=
  match kind with
  | .plain | .national | .bits => quotedBody '\'' cs
  | .doubleBits => quotedBody '"' cs
  | .hex => backslashedBody cs
  | .escaped => escapedBody (cs.length + 1) cs
  | .unicode => unicodeBody (cs.length + 1) cs

/-- How a body is written after the opening quote of a text, up to the closing one. -/
def writtenOf (kind : Quoted) (body : List Char) : List Char :=
  match kind with
  | .plain => doubleQuotes '\'' (Char.ofNat 0) body ++ ['\'']
  | .national | .bits | .hex => body ++ ['\'']
  | .doubleBits => body ++ ['"']
  | .escaped => body.flatMap escapedChar ++ ['\'']
  | .unicode => body.flatMap unicodeChar ++ ['\'']

theorem step_text (afterWord : Bool) (kind : Quoted) (body : String) (after : List Char) :
    step afterWord ((Token.text kind body).printed ++ after) =
      text kind (bodyOf kind (writtenOf kind body.toList ++ after)) := by
  cases kind <;>
    simp only [Token.printed, Literal.render, between, writtenOf, bodyOf, String.toList_append,
      String.toList_ofList, List.append_assoc] <;>
    rfl

/-- A text reads as a text of its kind, and as itself just when it is legible. -/
theorem bodyOf_eq_some {kind : Quoted} {after : List Char} (hafter : atBreak after.head? = true)
    {body rest : List Char} :
    bodyOf kind (writtenOf kind body ++ after) = some (body, rest) ↔
      kind.legible body = true ∧ rest = after := by
  have hquote : after.head? ≠ some '\'' := head_ne_of_atBreak hafter (by decide)
  have hdouble : after.head? ≠ some '"' := head_ne_of_atBreak hafter (by decide)
  cases kind with
  | plain =>
      simp only [bodyOf, writtenOf, Quoted.legible, List.append_assoc, List.singleton_append]
      exact quotedBody_between (by decide) (by decide) hquote
  | national | bits =>
      simp only [bodyOf, writtenOf, Quoted.legible, List.append_assoc, List.singleton_append,
        Bool.not_eq_true', List.contains_eq_mem, decide_eq_false_iff_not]
      exact quotedBody_plain hquote
  | doubleBits =>
      simp only [bodyOf, writtenOf, Quoted.legible, List.append_assoc, List.singleton_append,
        Bool.not_eq_true', List.contains_eq_mem, decide_eq_false_iff_not]
      exact quotedBody_plain hdouble
  | hex =>
      simp only [bodyOf, writtenOf, Quoted.legible, List.append_assoc, List.singleton_append,
        List.all_eq_true, Bool.not_eq_true']
      exact backslashedBody_eq_some (plainly_of_atBreak hafter)
  | escaped =>
      have hwritten := escapedBody_written hquote body
        ((body.flatMap escapedChar ++ '\'' :: after).length + 1) (by
          have hle := length_le_flatMap escapedChar_ne_nil body
          simp only [List.length_append]
          omega)
      simp only [bodyOf, writtenOf, Quoted.legible, List.append_assoc, List.singleton_append,
        hwritten, Option.some.injEq, Prod.mk.injEq, true_and]
      exact eq_comm
  | unicode =>
      have hwritten := unicodeBody_written hquote body
        ((body.flatMap unicodeChar ++ '\'' :: after).length + 1) (by
          have hle := length_le_flatMap unicodeChar_ne_nil body
          simp only [List.length_append]
          omega)
      simp only [bodyOf, writtenOf, Quoted.legible, List.append_assoc, List.singleton_append,
        hwritten, Option.some.injEq, Prod.mk.injEq, true_and]
      exact eq_comm

theorem step_quoted (afterWord : Bool) {w : Word} (hw : w.quoted = true) (after : List Char) :
    step afterWord ((Token.word w).printed ++ after) =
      match quotedBody '"' (doubleQuotes '"' (Char.ofNat 0) w.value.toList ++ '"' :: after) with
      | some (body, rest) => .ok (some (.word ⟨String.ofList body, true, none⟩), rest)
      | none => .error .unexpected := by
  simp only [Token.printed, hw, if_true, between, String.toList_append, String.toList_ofList,
    List.append_assoc]
  rfl

theorem symbolic_of_isWordStart {c : Char} (h : isWordStart c = true) (cs : List Char) :
    symbolic c cs = none := by
  unfold symbolic
  split <;> first | rfl | exact absurd h (by decide)

theorem isDigit_of_isWordStart {c : Char} (h : isWordStart c = true) : c.isDigit = false := by
  rw [← Bool.not_eq_true]
  intro hdigit
  simp only [Char.isDigit, Bool.and_eq_true, decide_eq_true_eq, ge_iff_le,
    UInt32.le_iff_toNat_le] at hdigit
  have hlow : 48 ≤ c.toNat := hdigit.1
  have hhigh : c.toNat ≤ 57 := hdigit.2
  have hletter : isLetter c = c.isAlpha := if_pos (by omega)
  have halpha : c.isAlpha = (decide (c.val ≥ 'A'.val ∧ c.val ≤ 'Z'.val) ||
      (decide (c.val ≥ 'a'.val) && decide (c.val ≤ 'z'.val))) := rfl
  simp only [isWordStart, hletter, halpha, Bool.or_eq_true, Bool.and_eq_true, decide_eq_true_eq,
    ge_iff_le, UInt32.le_iff_toNat_le, beq_iff_eq] at h
  obtain (h | h) | rfl := h
  · have hup : 65 ≤ c.toNat := h.1
    omega
  · have hup : 97 ≤ c.toNat := h.1
    omega
  · exact absurd hhigh (by decide)

/-- A word starts a word unless it is the mark in front of a text. -/
theorem next_word (afterWord : Bool) {c : Char} {cs : List Char} (hstart : isWordStart c = true)
    (hcs : ∀ d ∈ cs.head?, d ≠ '\'' ∧ d ≠ '"' ∧ d ≠ '&') :
    next afterWord c cs = wordFrom [c] cs := by
  have hdigit := isDigit_of_isWordStart hstart
  have hperiod : (c == '.') = false := by
    rw [beq_eq_false_iff_ne]
    rintro rfl
    exact absurd hstart (by decide)
  unfold next
  split
  all_goals try first | exact absurd hstart (by decide) | simp at hcs
  simp [hdigit, hperiod, symbolic_of_isWordStart hstart, hstart]

/-- Whether a word reads as itself: its characters are those of a word and it has the keyword that
they spell. -/
def spelled (w : Word) : Bool :=
  match w.value.toList with
  | [] => false
  | c :: cs => isWordStart c && cs.all isWordPart &&
      Keyword.ofCapitals? (String.ofList (capitalized (c :: cs))) == w.keyword

theorem step_spelled (afterWord : Bool) {w : Word} (hw : w.quoted = false)
    (hspelled : spelled w = true) {after : List Char}
    (hafter : (atBreak after.head? || after.head? == some '(') = true) :
    step afterWord ((Token.word w).printed ++ after) = .ok (some (.word w), after) := by
  obtain ⟨value, quoted, keyword⟩ := w
  unfold spelled at hspelled
  split at hspelled
  · cases hspelled
  next c cs hvalue =>
  simp only [Bool.and_eq_true, List.all_eq_true, beq_iff_eq] at hspelled hvalue hw
  obtain ⟨⟨hstart, hpart⟩, rfl⟩ := hspelled
  subst hw
  have hafter (d : Char) (hd : d ∈ after.head?) : d = ' ' ∨ d = ')' ∨ d = ',' ∨ d = '(' := by
    rw [Bool.or_eq_true, beq_iff_eq, Option.mem_def.1 hd] at hafter
    obtain hbreak | hbracket := hafter
    · obtain h | h | h := mem_of_atBreak hbreak d rfl <;> simp [h]
    · simp [Option.some.inj hbracket]
  have hend : after.takeWhile isWordPart = [] ∧ after.dropWhile isWordPart = after := by
    cases after with
    | nil => exact ⟨rfl, rfl⟩
    | cons d after =>
        have hd : isWordPart d = false := by
          obtain rfl | rfl | rfl | rfl := hafter d rfl <;> decide
        simp [hd]
  have hhead : ∀ d ∈ (cs ++ after).head?, d ≠ '\'' ∧ d ≠ '"' ∧ d ≠ '&' := by
    intro d hd
    cases cs with
    | nil => obtain rfl | rfl | rfl | rfl := hafter d hd <;> decide
    | cons e cs =>
        obtain rfl : e = d := by simpa using hd
        have he := hpart e (by simp)
        refine ⟨?_, ?_, ?_⟩ <;> rintro rfl <;> exact absurd he (by decide)
  have hprinted : (Token.word ⟨value, false, Keyword.ofCapitals? (String.ofList
      (capitalized (c :: cs)))⟩).printed ++ after = c :: (cs ++ after) := by
    simp [Token.printed, hvalue]
  rw [hprinted, step, next_word afterWord hstart hhead, wordFrom,
    List.takeWhile_append_of_pos hpart, List.dropWhile_append_of_pos hpart, hend.1, hend.2,
    List.append_nil, List.singleton_append, ← hvalue, String.ofList_toList]

theorem step_symbol (afterWord : Bool) {s : Symbol} (hs : s ≠ .ampGt ∧ s ≠ .question)
    (after : List Char) :
    step afterWord (s.text.toList ++ ' ' :: after) = .ok (some (.symbol s), ' ' :: after) := by
  cases s <;> first | rfl | simp at hs

end Scan

end GeoLayers.Sql
