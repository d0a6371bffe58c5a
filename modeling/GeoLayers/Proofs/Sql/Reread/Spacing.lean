import GeoLayers.Proofs.Sql.Reread.Printing

/-!
No piece of a plain condition runs on into the next one, as long as its numbers read as themselves
and no minus sign stands directly before another operator.
-/

namespace GeoLayers.Sql

/-- Whether the pieces of a construct stand apart from those of its operands, and a number from
what comes after it. -/
def Form.isSpaced (head : Form) (operands : List (List Piece)) : Bool :=
  match head, operands with
  | .literal (.number digits long), _ => Scan.numberReads digits long
  | .unary .minus, [e] => (printedAll e).head?.all fun c => !Scan.isOperatorPart c
  | _, _ => true

namespace Expr

mutual

/-- Whether no piece of a condition runs on into the next one. -/
def isSpaced : Expr → Bool
  | .column _ | .path _ => true
  | .form head operands => head.isSpaced (piecesAll operands) && areSpaced operands

def areSpaced : List Expr → Bool
  | [] => true
  | e :: es => e.isSpaced && areSpaced es

end

theorem areSpaced_eq_all (es : List Expr) : areSpaced es = es.all isSpaced := by
  induction es with
  | nil => rfl
  | cons e es ih => simp only [areSpaced, List.all_cons, ih]

end Expr

theorem fitAll_append {next : Option Char} {ps qs : List Piece} :
    fitAll next (ps ++ qs) = (fitAll ((printedAll qs).head?.or next) ps && fitAll next qs) := by
  induction ps with
  | nil => simp [fitAll]
  | cons p ps ih =>
      have hhead : (printedAll ps ++ printedAll qs).head?.or next =
          (printedAll ps).head?.or ((printedAll qs).head?.or next) := by
        rw [List.head?_append, Option.or_assoc]
      simp only [List.cons_append, fitAll, printedAll_append, ih, hhead, Bool.and_assoc]

/-- A blank in front of pieces changes nothing in them. -/
theorem fitAll_spaced (next : Option Char) (ps : List Piece) :
    fitAll next (spaced ps) = fitAll next ps := by
  cases ps <;> rfl

/-- Whether a keyword is written as it is spelled. -/
def Keyword.isSpelled (k : Keyword) : Bool := Scan.spelled ⟨k.spelling, false, some k⟩

theorem Keyword.fits_token {k : Keyword} {next : Option Char} (hk : k.isSpelled = true)
    (hnext : (Scan.atBreak next || next == some '(') = true) : k.token.fits next = true := by
  simp only [Keyword.token, Token.fits, Bool.false_eq_true, if_false, Bool.and_eq_true]
  exact ⟨hk, hnext⟩

theorem fitAll_keywords {next : Option Char} (hnext : Scan.atBreak next = true) {ks : List Keyword}
    (hks : ∀ k ∈ ks, k.isSpelled = true) : fitAll next (keywordPieces ks) = true := by
  induction ks with
  | nil => rfl
  | cons k ks ih =>
      obtain ⟨hk, hks⟩ := List.forall_mem_cons.1 hks
      have hbreak : Scan.atBreak ((printedAll (keywordPieces ks)).head?.or next) = true := by
        cases ks with
        | nil => exact hnext
        | cons => rfl
      change (k.token.fits ((printedAll (keywordPieces ks)).head?.or next) &&
        fitAll next (keywordPieces ks)) = true
      rw [Keyword.fits_token hk (by simp [hbreak]), ih hks]
      rfl

/-- The keywords of a plain construct are spelled as they are written. -/
theorem isSpelled_notKeyword (negated : Bool) {ks : List Keyword}
    (hks : ∀ k ∈ ks, k.isSpelled = true) : ∀ k ∈ notKeyword negated ++ ks, k.isSpelled = true := by
  cases negated with
  | false => exact hks
  | true => exact List.forall_mem_cons.2 ⟨by decide, hks⟩

theorem isSpelled_test (what : Test) : ∀ k ∈ what.keywords, k.isSpelled = true := by
  cases what with
  | normalized form =>
      cases form with
      | none => decide
      | some form => cases form <;> decide
  | _ => decide

/-- Pieces that fit in front of a blank, of a closing bracket and of a comma. -/
def Fits (ps : List Piece) : Prop := ∀ next, Scan.atBreak next = true → fitAll next ps = true

theorem Fits.spaced {ps : List Piece} (h : Fits ps) : Fits (spaced ps) := by
  intro next hnext
  rw [fitAll_spaced]
  exact h next hnext

/-- Pieces with a blank between them fit as they do alone. -/
theorem Fits.append {ps qs : List Piece} (hps : Fits ps) (hqs : Fits qs)
    (hhead : (printedAll qs).head? = some ' ') : Fits (ps ++ qs) := by
  intro next hnext
  rw [fitAll_append, hhead, hps _ rfl, hqs next hnext]
  rfl

theorem fits_keywords {ks : List Keyword} (hks : ∀ k ∈ ks, k.isSpelled = true) :
    Fits (keywordPieces ks) := fun _ hnext => fitAll_keywords hnext hks

theorem head_spaced {ps : List Piece} (h : StartsTight ps) :
    (printedAll (spaced ps)).head? = some ' ' := by
  rw [printedAll_spaced h]
  rfl

theorem head_keywords {ks : List Keyword} (h : ks ≠ []) (ps : List Piece) :
    (printedAll (keywordPieces ks ++ ps)).head? = some ' ' := by
  cases ks with
  | nil => exact absurd rfl h
  | cons k ks => rfl

/-- Keywords in front of an operand. -/
theorem fits_keywords_spaced {ks : List Keyword} (hks : ∀ k ∈ ks, k.isSpelled = true)
    {ps : List Piece} (hps : Fits ps) (htight : StartsTight ps) :
    Fits (keywordPieces ks ++ spaced ps) :=
  (fits_keywords hks).append hps.spaced (head_spaced htight)

theorem fits_bracketPieces {inside : List Piece} (h : Fits inside) : Fits (bracketPieces inside) := by
  intro next _
  have hclose : fitAll next (inside ++ [⟨false, .symbol .rParen⟩]) = true := by
    rw [fitAll_append]
    change (fitAll (some ')') inside && _) = true
    rw [h _ rfl]
    rfl
  change (true && fitAll next (inside ++ [⟨false, .symbol .rParen⟩])) = true
  rw [hclose]
  rfl

theorem fits_commaPieces {pss : List (List Piece)} (h : ∀ ps ∈ pss, Fits ps) :
    Fits (commaPieces pss) := by
  induction pss with
  | nil => exact fun _ _ => rfl
  | cons ps pss ih =>
      obtain ⟨hps, hpss⟩ := List.forall_mem_cons.1 h
      cases pss with
      | nil => exact hps
      | cons qs pss =>
          intro next hnext
          change fitAll next (ps ++ ⟨false, .symbol .comma⟩ :: spaced (commaPieces (qs :: pss))) =
            true
          rw [fitAll_append]
          change (fitAll (some ',') ps && (true && fitAll next (spaced (commaPieces (qs :: pss))))) =
            true
          rw [hps _ rfl, fitAll_spaced, ih hpss next hnext]
          rfl

/-- An operator between two operands. -/
theorem fits_operator {op : BinaryOp} (hop : op.isPlain = true) {ps : List Piece}
    (hps : Fits ps) (hhead : (printedAll ps).head? = some ' ') : Fits (⟨true, op.token⟩ :: ps) := by
  intro next hnext
  have htoken : op.token.fits (some ' ') = true := by
    cases op with
    | symbol s => cases s <;> first | rfl | cases hop
    | custom run => cases hop
    | path parts => cases hop
    | _ => exact Keyword.fits_token (by decide) rfl
  rw [fitAll, hhead, Option.some_or, htoken, hps next hnext]
  rfl

theorem fits_literal {value : Literal} (h : value.isPlain = true)
    (hspaced : (Form.literal value).isSpaced [] = true) : Fits [⟨false, value.token⟩] := by
  intro next hnext
  rw [fitAll, fitAll, Bool.and_true, printedAll_nil, List.head?_nil, Option.none_or]
  cases value with
  | number digits long =>
      simp only [Literal.token, Token.fits, hnext, Bool.and_true]
      exact hspaced
  | text kind body => exact hnext
  | boolean value =>
      have hspelled : Scan.spelled ⟨"true", false, some .TRUE⟩ = true ∧
          Scan.spelled ⟨"false", false, some .FALSE⟩ = true := by decide
      cases value <;> simp [Literal.token, Token.fits, hspelled, hnext]
  | null =>
      have hspelled : Scan.spelled ⟨"NULL", false, some .NULL⟩ = true := by decide
      simp [Literal.token, Token.fits, hspelled, hnext]
  | _ => cases h

/-- A minus sign in front of what starts with no operator. -/
theorem fits_minus {ps : List Piece} (hspaced : (Form.unary .minus).isSpaced [ps] = true)
    (hps : Fits ps) : Fits (⟨false, .symbol .minus⟩ :: ps) := by
  intro next hnext
  have hhead : (((printedAll ps).head?.or next).all fun c => !Scan.isOperatorPart c) = true := by
    cases hprinted : (printedAll ps).head? with
    | none =>
        cases hnone : next with
        | none => rfl
        | some c => obtain rfl | rfl | rfl := Scan.mem_of_atBreak hnext c hnone <;> rfl
    | some c =>
        simp only [Form.isSpaced, hprinted] at hspaced
        exact hspaced
  change ((((printedAll ps).head?.or next).all fun c => !Scan.isOperatorPart c) &&
    fitAll next ps) = true
  rw [hhead, hps next hnext]
  rfl

theorem fits_not {ps : List Piece} (htight : StartsTight ps) (hps : Fits ps) :
    Fits (⟨false, Keyword.NOT.token⟩ :: spaced ps) := by
  intro next hnext
  have htoken : Keyword.NOT.token.fits (some ' ') = true :=
    Keyword.fits_token (by decide) rfl
  change (Keyword.NOT.token.fits ((printedAll (spaced ps)).head?.or next) &&
    fitAll next (spaced ps)) = true
  rw [head_spaced htight, Option.some_or, htoken, fitAll_spaced, hps next hnext]
  rfl

/-- The pieces of a plain construct fit if those of its operands do. -/
theorem fits_form {head : Form} {pss : List (List Piece)} (hplain : head.PlainWith pss)
    (hspaced : head.isSpaced pss = true) (htight : ∀ ps ∈ pss, StartsTight ps)
    (hfits : ∀ ps ∈ pss, Fits ps) : Fits (head.pieces pss) := by
  cases hplain with
  | literal h => exact fits_literal h hspaced
  | plus e =>
      intro next hnext
      change (true && fitAll next e) = true
      rw [hfits e (by simp) next hnext]
      rfl
  | minus e => exact fits_minus hspaced (hfits e (by simp))
  | not e => exact fits_not (htight e (by simp)) (hfits e (by simp))
  | binary h l r =>
      exact (hfits l (by simp)).append
        (fits_operator h (hfits r (by simp)).spaced (head_spaced (htight r (by simp)))) rfl
  | test negated what e =>
      refine (hfits e (by simp)).append (fits_keywords ?_) rfl
      exact List.forall_mem_cons.2
        ⟨by decide, isSpelled_notKeyword negated (isSpelled_test what)⟩
  | distinctFrom negated l r =>
      refine (hfits l (by simp)).append (fits_keywords_spaced ?_ (hfits r (by simp))
        (htight r (by simp))) rfl
      exact List.forall_mem_cons.2
        ⟨by decide, isSpelled_notKeyword negated (by decide)⟩
  | inList negated e item items =>
      have hitems := (List.forall_mem_cons.1 hfits).2
      refine (hfits e (by simp)).append (fits_keywords_spaced ?_
        (fits_bracketPieces (fits_commaPieces hitems)) (startsTight_bracketPieces _)) ?_
      · exact isSpelled_notKeyword negated (by decide)
      · exact head_keywords (by simp) _
  | between negated e low high =>
      have hhigh : Fits (keywordPieces [.AND] ++ spaced high) :=
        fits_keywords_spaced (by decide) (hfits high (by simp)) (htight high (by simp))
      have hlow : Fits (keywordPieces (notKeyword negated ++ [.BETWEEN]) ++ spaced low) :=
        fits_keywords_spaced (isSpelled_notKeyword negated (by decide))
          (hfits low (by simp)) (htight low (by simp))
      refine (hfits e (by simp)).append (hlow.append hhigh rfl) ?_
      rw [Form.suffix, List.append_assoc]
      exact head_keywords (by simp) _
  | like kind negated any e pattern =>
      have hkind : ∀ k ∈ kind.keywords ++ (if any then [.ANY] else []), k.isSpelled = true := by
        cases kind <;> cases any <;> decide
      refine (hfits e (by simp)).append (fits_keywords_spaced ?_ (hfits pattern (by simp))
        (htight pattern (by simp))) ?_
      · rw [List.append_assoc]
        exact isSpelled_notKeyword negated hkind
      · exact head_keywords (by cases kind <;> simp [LikeKind.keywords]) _
  | regexp negated rlike e pattern =>
      have hword : ∀ k ∈ [if rlike then Keyword.RLIKE else .REGEXP], k.isSpelled = true := by
        cases rlike <;> decide
      refine (hfits e (by simp)).append (fits_keywords_spaced (isSpelled_notKeyword negated hword)
        (hfits pattern (by simp)) (htight pattern (by simp))) ?_
      exact head_keywords (by simp) _
  | atTimeZone e zone =>
      exact (hfits e (by simp)).append (fits_keywords_spaced (by decide)
        (hfits zone (by simp)) (htight zone (by simp))) rfl
  | nested e => exact fits_bracketPieces (hfits e (by simp))
  | tuple e e' es => exact fits_bracketPieces (fits_commaPieces hfits)

theorem fits_pathPieces (parts : List Ident) : Fits (pathPieces parts) := by
  induction parts with
  | nil => exact fun _ _ => rfl
  | cons name names ih =>
      intro next hnext
      cases names with
      | nil =>
          change (name.token.fits next && true) = true
          simp [Ident.token, Token.fits, hnext]
      | cons name' names =>
          have hhead : (printedAll (pathPieces (name' :: names))).head? = some '"' := by
            cases names <;> simp [pathPieces, Ident.token, Token.printed, between]
          change (name.token.fits (some '.') && ((Token.symbol .period).fits
            ((printedAll (pathPieces (name' :: names))).head?.or next) &&
              fitAll next (pathPieces (name' :: names)))) = true
          rw [hhead, ih next hnext]
          rfl

/-- The pieces of a plain condition fit where an expression ends. -/
theorem Expr.fits_pieces {e : Expr} (hplain : e.isPlain = true) (hspaced : e.isSpaced = true) :
    Fits e.pieces := by
  induction e using Expr.induction_of_operands with
  | hcolumn name => exact fits_pathPieces [name]
  | hpath parts => exact fits_pathPieces parts
  | hform head operands ih =>
      obtain ⟨hform, hoperands⟩ := plainWith_pieces hplain
      simp only [isSpaced, areSpaced_eq_all, piecesAll_eq_map, Bool.and_eq_true,
        List.all_eq_true] at hspaced
      rw [pieces, piecesAll_eq_map]
      refine fits_form hform hspaced.1 ?_ ?_
      · intro ps hps
        obtain ⟨e, he, rfl⟩ := List.mem_map.1 hps
        exact startsTight_pieces (hoperands e he)
      · intro ps hps
        obtain ⟨e, he, rfl⟩ := List.mem_map.1 hps
        exact ih e he (hoperands e he) (hspaced.2 e he)

end GeoLayers.Sql
