import GeoLayers.Proofs.Sql.Reread.Numerals

/-!
Reading a printed text again. The text is a list of pieces, each a token with a blank in front of
it or none. If nothing runs on into the next piece, the scanner finds the tokens of the pieces
while the pieces are legible; at the first one that is not it finds another constant or name.
-/

namespace GeoLayers.Sql

/-- Whether a token ends where the character `next` comes after it, or the end of the text. -/
def Token.fits (t : Token) (next : Option Char) : Bool :=
  match t with
  | .word w =>
    if w.quoted then w.keyword.isNone && (Scan.atBreak next || next == some '.')
    else Scan.spelled w && (Scan.atBreak next || next == some '(')
  | .number digits long => Scan.numberReads digits long && Scan.atBreak next
  | .text _ _ => Scan.atBreak next
  | .symbol .lParen | .symbol .rParen | .symbol .comma | .symbol .plus => true
  | .symbol .minus => next.all fun c => !Scan.isOperatorPart c
  | .symbol .period => next == some '"'
  | .symbol s => s != .ampGt && s != .question && next == some ' '
  | _ => false

/-- A token of a printed text, and whether a blank is in front of it. -/
structure Piece where
  gap : Bool
  token : Token
  deriving DecidableEq, Repr

def Piece.printed (p : Piece) : List Char :=
  if p.gap then ' ' :: p.token.printed else p.token.printed

def printedAll (ps : List Piece) : List Char := ps.flatMap Piece.printed

/-- Whether no piece runs on into the one that follows; `next` comes after all. -/
def fitAll (next : Option Char) : List Piece → Bool
  | [] => true
  | p :: ps => p.token.fits ((printedAll ps).head?.or next) && fitAll next ps

namespace Scan

theorem step_dash (afterWord : Bool) {cs : List Char} {found : Step}
    (h : symbolic '-' cs = some found) : step afterWord ('-' :: cs) = found := by
  simp [step, next, h]

theorem step_minus (afterWord : Bool) {after : List Char}
    (hafter : ∀ c ∈ after.head?, isOperatorPart c = false) :
    step afterWord ('-' :: after) = .ok (some (.symbol .minus), after) := by
  cases after with
  | nil => rfl
  | cons d after =>
      have hd := hafter d rfl
      have hdash : d ≠ '-' := by
        rintro rfl
        exact absurd hd (by decide)
      have hangle : d ≠ '>' := by
        rintro rfl
        exact absurd hd (by decide)
      have hsymbolic : symbolic '-' (d :: after) = give .minus (d :: after) := by
        have hextend : extend "-" (some .minus) (d :: after) = give .minus (d :: after) := by
          simp [extend, hd]
        unfold symbolic
        simp [hdash, hangle, hextend]
      exact step_dash afterWord hsymbolic

/-- A quoted name reads as a quoted name, and as itself just when it is legible. -/
theorem step_quoted_eq (afterWord : Bool) {w : Word} (hw : w.quoted = true)
    (hkeyword : w.keyword = none) {after rest : List Char} (hafter : after.head? ≠ some '"') :
    step afterWord ((Token.word w).printed ++ after) = .ok (some (.word w), rest) ↔
      (Token.word w).legible = true ∧ rest = after := by
  obtain ⟨value, quoted, keyword⟩ := w
  dsimp only at hw hkeyword
  subst hw hkeyword
  rw [step_quoted afterWord rfl after]
  have hbody : quotedBody '"' (doubleQuotes '"' (Char.ofNat 0) value.toList ++ '"' :: after) =
      some (value.toList, rest) ↔
        quotesStandAlone '"' (Char.ofNat 0) value.toList = true ∧ rest = after :=
    quotedBody_between (by decide) (by decide) hafter
  simp only [Token.legible, Bool.not_true, Bool.false_or]
  rw [← hbody]
  split
  · next found more heq =>
    rw [heq]
    constructor
    · intro h
      obtain ⟨hvalue, rfl⟩ := Prod.mk.inj (Except.ok.inj h)
      injection hvalue with hvalue
      injection hvalue with hvalue
      injection hvalue with hvalue
      rw [← hvalue, String.toList_ofList]
    · intro h
      obtain ⟨rfl, rfl⟩ := Prod.mk.inj (Option.some.inj h)
      rw [String.ofList_toList]
  · next heq => simp [heq]

/-- A legible token is found where it stands. -/
theorem step_of_legible (afterWord : Bool) {t : Token} {after : List Char}
    (hfits : t.fits after.head? = true) (hlegible : t.legible = true) :
    step afterWord (t.printed ++ after) = .ok (some t, after) := by
  cases t with
  | word w =>
      by_cases hw : w.quoted = true
      · simp only [Token.fits, hw, if_true, Bool.and_eq_true, Bool.or_eq_true, beq_iff_eq,
          Option.isNone_iff_eq_none] at hfits
        have hquote : after.head? ≠ some '"' := by
          obtain hbreak | hperiod := hfits.2
          · exact head_ne_of_atBreak hbreak (by decide)
          · rw [hperiod]
            decide
        exact (step_quoted_eq afterWord hw hfits.1 hquote).2 ⟨hlegible, rfl⟩
      · rw [Bool.not_eq_true] at hw
        simp only [Token.fits, hw, Bool.false_eq_true, if_false, Bool.and_eq_true] at hfits
        exact step_spelled afterWord hw hfits.1 hfits.2
  | number digits long =>
      simp only [Token.fits, Bool.and_eq_true] at hfits
      exact step_number afterWord hfits.1 hfits.2
  | text kind body =>
      rw [step_text, (bodyOf_eq_some hfits).2 ⟨hlegible, rfl⟩, text, String.ofList_toList]
  | symbol s =>
      cases s
      case minus =>
        have hnone : ∀ c ∈ after.head?, isOperatorPart c = false := by
          intro c hc
          rw [Option.mem_def.1 hc] at hfits
          simpa [Token.fits] using hfits
        exact step_minus afterWord hnone
      case period =>
        obtain ⟨after, rfl⟩ : ∃ more, after = '"' :: more :=
          List.head?_eq_some_iff.1 (by simpa [Token.fits] using hfits)
        rfl
      case lParen | rParen | comma | plus => rfl
      case ampGt | question => simp [Token.fits] at hfits
      all_goals
        obtain ⟨after, rfl⟩ : ∃ more, after = ' ' :: more :=
          List.head?_eq_some_iff.1 (by simpa [Token.fits] using hfits)
        exact step_symbol afterWord (by decide) after
  | dollarText tag body => cases hfits
  | operator run => cases hfits
  | placeholder name => cases hfits
  | other c => cases hfits

/-- Where a token that is not legible stands, another constant or name is found. -/
theorem step_of_not_legible (afterWord : Bool) {t : Token} {after : List Char} {found : Lexeme}
    {rest : List Char} (hfits : t.fits after.head? = true) (hlegible : t.legible = false)
    (hstep : step afterWord (t.printed ++ after) = .ok (found, rest)) :
    ∃ t', found = some t' ∧ t'.isMark = true ∧ t' ≠ t := by
  cases t with
  | word w =>
      have hw : w.quoted = true := by
        cases hw : w.quoted with
        | true => rfl
        | false => simp [Token.legible, hw] at hlegible
      simp only [Token.fits, hw, if_true, Bool.and_eq_true, Bool.or_eq_true, beq_iff_eq,
        Option.isNone_iff_eq_none] at hfits
      have hquote : after.head? ≠ some '"' := by
        obtain hbreak | hperiod := hfits.2
        · exact head_ne_of_atBreak hbreak (by decide)
        · rw [hperiod]
          decide
      have hself : step afterWord ((Token.word w).printed ++ after) = .ok (some (.word w), rest) →
          (Token.word w).legible = true :=
        fun h => ((step_quoted_eq afterWord hw hfits.1 hquote).1 h).1
      rw [step_quoted afterWord hw] at hstep
      split at hstep
      · next body more heq =>
        obtain ⟨hfound, rfl⟩ := Prod.mk.inj (Except.ok.inj hstep)
        refine ⟨_, hfound.symm, rfl, fun hsame => ?_⟩
        rw [step_quoted afterWord hw, heq] at hself
        simp [hsame, hlegible] at hself
      · cases hstep
  | text kind body =>
      rw [step_text] at hstep
      cases hbody : bodyOf kind (writtenOf kind body.toList ++ after) with
      | none => simp [hbody, text] at hstep
      | some r =>
          obtain ⟨found', more⟩ := r
          rw [hbody] at hstep
          obtain ⟨hfound, rfl⟩ := Prod.mk.inj (Except.ok.inj hstep)
          refine ⟨_, hfound.symm, rfl, fun hsame => ?_⟩
          injection hsame with _ hsame
          rw [← hsame, String.toList_ofList] at hbody
          rw [← hsame, Token.legible, String.toList_ofList, ((bodyOf_eq_some hfits).1 hbody).1]
            at hlegible
          cases hlegible
  | _ => cases hlegible

/-- The scanner takes one step, and goes on from there. -/
theorem all_of_step (fuel : Nat) {afterWord : Bool} {cs : List Char} {t : Token} {rest : List Char}
    (h : step afterWord cs = .ok (some t, rest)) :
    ∃ word, all (fuel + 1) afterWord cs = (all fuel word rest).map (t :: ·) := by
  cases cs with
  | nil => cases h
  | cons c cs =>
      rw [step] at h
      rw [all, h]
      exact ⟨_, rfl⟩

theorem exists_step_of_all {fuel : Nat} {afterWord : Bool} {cs : List Char} {ts : List Token}
    (hcs : cs ≠ []) (h : all fuel afterWord cs = .ok ts) :
    ∃ fuel' found rest, fuel = fuel' + 1 ∧ step afterWord cs = .ok (found, rest) := by
  cases cs with
  | nil => exact absurd rfl hcs
  | cons c cs =>
      cases fuel with
      | zero => cases h
      | succ fuel =>
          cases hstep : next afterWord c cs with
          | error fault =>
              rw [all, hstep] at h
              cases h
          | ok r => exact ⟨fuel, r.1, r.2, rfl, hstep⟩

theorem all_blank (fuel : Nat) (afterWord : Bool) (cs : List Char) :
    all (fuel + 1) afterWord (' ' :: cs) = all fuel false cs := rfl

end Scan

theorem Token.printed_ne_nil {t : Token} {next : Option Char} (h : t.fits next = true) :
    t.printed ≠ [] := by
  cases t with
  | word w =>
      by_cases hw : w.quoted = true
      · simp [Token.printed, hw, between, String.toList_append]
      · rw [Bool.not_eq_true] at hw
        simp only [Token.fits, hw, Bool.false_eq_true, if_false, Bool.and_eq_true] at h
        intro hnil
        simp [Token.printed, hw] at hnil
        simp [Scan.spelled, hnil] at h
  | number digits long =>
      intro hnil
      simp [Token.fits, Scan.numberReads, hnil, Scan.startsNumber] at h
  | text kind body => cases kind <;> simp [Token.printed, Literal.render, between]
  | symbol s => cases s <;> decide
  | dollarText tag body => cases h
  | operator run => cases h
  | placeholder name => cases h
  | other c => cases h

theorem Token.isMark_of_not_legible {t : Token} (h : t.legible = false) : t.isMark = true := by
  cases t with
  | word w =>
      cases hw : w.quoted with
      | true => simp [Token.isMark, hw]
      | false => simp [Token.legible, hw] at h
  | text kind body => rfl
  | _ => cases h

theorem printedAll_cons (p : Piece) (ps : List Piece) :
    printedAll (p :: ps) =
      if p.gap then ' ' :: (p.token.printed ++ printedAll ps) else p.token.printed ++ printedAll ps := by
  unfold printedAll
  rw [List.flatMap_cons, Piece.printed]
  split <;> rfl

namespace Scan

/-- The scanner finds the tokens of legible pieces. -/
theorem all_printed {ps : List Piece} (hlegible : ∀ p ∈ ps, p.token.legible = true)
    (hfit : fitAll none ps = true) :
    ∀ fuel afterWord, (printedAll ps).length ≤ fuel →
      all fuel afterWord (printedAll ps) = .ok (ps.map Piece.token) := by
  induction ps with
  | nil =>
      intro fuel afterWord _
      cases fuel <;> rfl
  | cons p ps ih =>
      obtain ⟨hp, hlegible⟩ := List.forall_mem_cons.1 hlegible
      simp only [fitAll, Option.or_none, Bool.and_eq_true] at hfit
      have hpos := List.length_pos_iff.2 (Token.printed_ne_nil hfit.1)
      have htoken (fuel : Nat) (afterWord : Bool)
          (hfuel : (p.token.printed ++ printedAll ps).length ≤ fuel) :
          all fuel afterWord (p.token.printed ++ printedAll ps) =
            .ok ((p :: ps).map Piece.token) := by
        rw [List.length_append] at hfuel
        cases fuel with
        | zero => omega
        | succ fuel =>
            obtain ⟨word, hall⟩ := all_of_step fuel (step_of_legible afterWord hfit.1 hp)
            rw [hall, ih hlegible hfit.2 fuel word (by omega)]
            rfl
      intro fuel afterWord hfuel
      rw [printedAll_cons] at hfuel ⊢
      split at hfuel
      · next hgap =>
        rw [if_pos hgap]
        cases fuel with
        | zero => simp at hfuel
        | succ fuel =>
            rw [all_blank]
            exact htoken fuel false (by simpa using hfuel)
      · next hgap =>
        rw [if_neg hgap]
        exact htoken fuel afterWord hfuel

/-- Pieces whose constants and names are found again, in their order, are all legible. -/
theorem legible_of_all {ps : List Piece} (hfit : fitAll none ps = true) :
    ∀ fuel afterWord ts, all fuel afterWord (printedAll ps) = .ok ts →
      (ps.map Piece.token).filter Token.isMark <+: ts.filter Token.isMark →
      ∀ p ∈ ps, p.token.legible = true := by
  induction ps with
  | nil => simp
  | cons p ps ih =>
      simp only [fitAll, Option.or_none, Bool.and_eq_true] at hfit
      have htoken (fuel : Nat) (afterWord : Bool) (ts : List Token)
          (hall : all fuel afterWord (p.token.printed ++ printedAll ps) = .ok ts)
          (hmarks : ((p :: ps).map Piece.token).filter Token.isMark <+: ts.filter Token.isMark) :
          ∀ p' ∈ p :: ps, p'.token.legible = true := by
        have hne : p.token.printed ++ printedAll ps ≠ [] := by
          simp [Token.printed_ne_nil hfit.1]
        obtain ⟨fuel, found, rest, rfl, hstep⟩ := exists_step_of_all hne hall
        rw [List.map_cons] at hmarks
        by_cases hp : p.token.legible = true
        · obtain ⟨word, hmore⟩ := all_of_step fuel (step_of_legible afterWord hfit.1 hp)
          rw [hmore] at hall
          cases hrest : all fuel word (printedAll ps) with
          | error fault => simp [hrest, Except.map] at hall
          | ok ts' =>
              rw [hrest] at hall
              obtain rfl : p.token :: ts' = ts := Except.ok.inj hall
              refine List.forall_mem_cons.2 ⟨hp, ih hfit.2 fuel word ts' hrest ?_⟩
              by_cases hmark : p.token.isMark = true
              · rw [List.filter_cons_of_pos hmark, List.filter_cons_of_pos hmark,
                  List.cons_prefix_cons] at hmarks
                exact hmarks.2
              · rwa [List.filter_cons_of_neg hmark, List.filter_cons_of_neg hmark] at hmarks
        · rw [Bool.not_eq_true] at hp
          obtain ⟨t, rfl, hmark, hne⟩ := step_of_not_legible afterWord hfit.1 hp hstep
          obtain ⟨word, hmore⟩ := all_of_step fuel hstep
          rw [hmore] at hall
          cases hrest : all fuel word rest with
          | error fault => simp [hrest, Except.map] at hall
          | ok ts' =>
              rw [hrest] at hall
              obtain rfl : t :: ts' = ts := Except.ok.inj hall
              rw [List.filter_cons_of_pos (Token.isMark_of_not_legible hp),
                List.filter_cons_of_pos hmark, List.cons_prefix_cons] at hmarks
              exact absurd hmarks.1.symm hne
      intro fuel afterWord ts hall hmarks
      rw [printedAll_cons] at hall
      split at hall
      · obtain ⟨fuel, found, rest, rfl, -⟩ := exists_step_of_all (List.cons_ne_nil _ _) hall
        rw [all_blank] at hall
        exact htoken fuel false ts hall hmarks
      · exact htoken fuel afterWord ts hall hmarks

end Scan

end GeoLayers.Sql
