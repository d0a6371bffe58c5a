import GeoLayers.Where
import GeoLayers.Proofs.Sql.Reread.Printing

/-!
The tokens that a plain condition is written with: how they start, and that none of them is refused in
a clause or opens a square bracket.
-/

namespace GeoLayers.Sql

/-- Groups of tokens with commas between them. -/
def commaTokens : List (List Token) → List Token
  | [] => []
  | [ts] => ts
  | ts :: tss => ts ++ .symbol .comma :: commaTokens tss

def keywordTokens (ks : List Keyword) : List Token := ks.map Keyword.token

@[simp] theorem map_token_spaced (ps : List Piece) :
    (spaced ps).map Piece.token = ps.map Piece.token := by
  cases ps <;> rfl

@[simp] theorem map_token_keywordPieces (ks : List Keyword) :
    (keywordPieces ks).map Piece.token = keywordTokens ks := by
  simp [keywordPieces, keywordTokens]

@[simp] theorem map_token_bracketPieces (inside : List Piece) :
    (bracketPieces inside).map Piece.token =
      .symbol .lParen :: (inside.map Piece.token ++ [.symbol .rParen]) := by
  simp [bracketPieces]

@[simp] theorem map_token_commaPieces (pss : List (List Piece)) :
    (commaPieces pss).map Piece.token = commaTokens (pss.map (List.map Piece.token)) := by
  induction pss with
  | nil => rfl
  | cons ps pss ih =>
      cases pss with
      | nil => rfl
      | cons qs pss =>
          have htail : (commaPieces (ps :: qs :: pss)).map Piece.token =
              ps.map Piece.token ++ .symbol .comma :: (commaPieces (qs :: pss)).map Piece.token := by
            simp [commaPieces]
          rw [htail, ih]
          rfl

/-- Whether a token starts a plain operand. -/
def Token.opens : Token → Bool
  | .word w =>
    match w.keyword with
    | some k => ([.NOT, .TRUE, .FALSE, .NULL] : List Keyword).contains k
    | none => w.quoted
  | .number _ _ | .text _ _ => true
  | .symbol s => ([.lParen, .plus, .minus] : List Symbol).contains s
  | _ => false

/-- Whether a token opens no square bracket and may stand in a clause. -/
def Token.isCalm (t : Token) : Bool := t != .symbol .lBracket && (Where.tokenFault? t).isNone

theorem Literal.opens_token {value : Literal} (h : value.isPlain = true) :
    value.token.opens = true := by
  cases value with
  | number digits long | text kind body | null => rfl
  | boolean value => cases value <;> rfl
  | _ => cases h

theorem Literal.isCalm_token {value : Literal} (h : value.isPlain = true) :
    value.token.isCalm = true := by
  cases value with
  | number digits long | text kind body | null => rfl
  | boolean value => cases value <;> rfl
  | _ => cases h

theorem BinaryOp.isCalm_token {op : BinaryOp} (h : op.isPlain = true) : op.token.isCalm = true := by
  cases op with
  | symbol s => cases s <;> first | rfl | cases h
  | and | or | xor | overlaps => rfl
  | _ => cases h

theorem isCalm_notKeyword (negated : Bool) {ks : List Keyword}
    (h : (keywordTokens ks).all Token.isCalm = true) :
    (keywordTokens (notKeyword negated ++ ks)).all Token.isCalm = true := by
  cases negated with
  | false => exact h
  | true => exact h

theorem isCalm_test (what : Test) : (keywordTokens what.keywords).all Token.isCalm = true := by
  cases what with
  | normalized form =>
      cases form with
      | none => rfl
      | some form => cases form <;> rfl
  | _ => rfl

theorem isCalm_commaTokens {tss : List (List Token)}
    (h : ∀ ts ∈ tss, ts.all Token.isCalm = true) : (commaTokens tss).all Token.isCalm = true := by
  induction tss with
  | nil => rfl
  | cons ts tss ih =>
      obtain ⟨hts, htss⟩ := List.forall_mem_cons.1 h
      cases tss with
      | nil => exact hts
      | cons us tss =>
          have htail : commaTokens (ts :: us :: tss) = ts ++ .symbol .comma :: commaTokens (us :: tss) :=
            rfl
          rw [htail, List.all_append, List.all_cons, hts, ih htss]
          rfl

namespace Expr

/-- The tokens of a plain condition. -/
def tokens (e : Expr) : List Token := e.pieces.map Piece.token

section

variable (negated : Bool) (e l r : Expr)

theorem map_token_pieces (es : List Expr) :
    (es.map pieces).map (List.map Piece.token) = es.map tokens := by
  rw [List.map_map]
  rfl

theorem tokens_literal (value : Literal) :
    (form (.literal value) []).tokens = [value.token] := rfl

theorem tokens_plus : (form (.unary .plus) [e]).tokens = .symbol .plus :: e.tokens := rfl

theorem tokens_minus : (form (.unary .minus) [e]).tokens = .symbol .minus :: e.tokens := rfl

theorem tokens_not : (form (.unary .not) [e]).tokens = Keyword.NOT.token :: e.tokens := by
  change Keyword.NOT.token :: (spaced e.pieces).map Piece.token = _
  rw [map_token_spaced]
  rfl

theorem tokens_nested :
    (form .nested [e]).tokens = .symbol .lParen :: (e.tokens ++ [.symbol .rParen]) :=
  map_token_bracketPieces e.pieces

theorem tokens_tuple (es : List Expr) : (form .tuple es).tokens =
    .symbol .lParen :: (commaTokens (es.map tokens) ++ [.symbol .rParen]) := by
  change (bracketPieces (commaPieces (piecesAll es))).map Piece.token = _
  rw [map_token_bracketPieces, map_token_commaPieces, piecesAll_eq_map, map_token_pieces]

theorem tokens_binary (op : BinaryOp) :
    (form (.binary op) [l, r]).tokens = l.tokens ++ op.token :: r.tokens := by
  change (l.pieces ++ ⟨true, op.token⟩ :: spaced r.pieces).map Piece.token = _
  simp [tokens]

theorem tokens_test (what : Test) : (form (.test negated what) [e]).tokens =
    e.tokens ++ keywordTokens (.IS :: (notKeyword negated ++ what.keywords)) := by
  change (e.pieces ++ keywordPieces _).map Piece.token = _
  simp [tokens]

theorem tokens_distinctFrom : (form (.distinctFrom negated) [l, r]).tokens = l.tokens ++
    (keywordTokens (.IS :: (notKeyword negated ++ [.DISTINCT, .FROM])) ++ r.tokens) := by
  change (l.pieces ++ (keywordPieces _ ++ spaced r.pieces)).map Piece.token = _
  simp [tokens]

theorem tokens_inList (items : List Expr) : (form (.inList negated) (e :: items)).tokens =
    e.tokens ++ (keywordTokens (notKeyword negated ++ [.IN]) ++
      .symbol .lParen :: (commaTokens (items.map tokens) ++ [.symbol .rParen])) := by
  change (e.pieces ++ (keywordPieces _ ++
    spaced (bracketPieces (commaPieces (piecesAll items))))).map Piece.token = _
  rw [List.map_append, List.map_append, map_token_keywordPieces, map_token_spaced,
    map_token_bracketPieces, map_token_commaPieces, piecesAll_eq_map, map_token_pieces]
  rfl

theorem tokens_between (low high : Expr) : (form (.between negated) [e, low, high]).tokens =
    e.tokens ++ (keywordTokens (notKeyword negated ++ [.BETWEEN]) ++
      (low.tokens ++ Keyword.AND.token :: high.tokens)) := by
  change (e.pieces ++ (keywordPieces _ ++ spaced low.pieces ++
    (keywordPieces _ ++ spaced high.pieces))).map Piece.token = _
  simp [tokens, keywordTokens]

theorem tokens_like (kind : LikeKind) (any : Bool) (pattern : Expr) :
    (form (.like kind negated any none) [e, pattern]).tokens = e.tokens ++
      (keywordTokens (notKeyword negated ++ kind.keywords ++ if any then [.ANY] else []) ++
        pattern.tokens) := by
  change (e.pieces ++ (keywordPieces _ ++ spaced pattern.pieces)).map Piece.token = _
  simp [tokens]

theorem tokens_regexp (rlike : Bool) (pattern : Expr) :
    (form (.regexp negated rlike) [e, pattern]).tokens = e.tokens ++
      (keywordTokens (notKeyword negated ++ [if rlike then .RLIKE else .REGEXP]) ++
        pattern.tokens) := by
  change (e.pieces ++ (keywordPieces _ ++ spaced pattern.pieces)).map Piece.token = _
  simp [tokens]

theorem tokens_atTimeZone (zone : Expr) : (form .atTimeZone [e, zone]).tokens =
    e.tokens ++ (keywordTokens [.AT, .TIME, .ZONE] ++ zone.tokens) := by
  change (e.pieces ++ (keywordPieces _ ++ spaced zone.pieces)).map Piece.token = _
  simp [tokens]

end

/-- A construct that starts with an operand starts with the operand's tokens. -/
theorem tokens_startsWithOperand {head : Form} (h : head.startsWithOperand = true) (e : Expr)
    (others : List Expr) : ∃ ts, (form head (e :: others)).tokens = e.tokens ++ ts := by
  have hpieces : (form head (e :: others)).pieces = e.pieces ++ head.suffix (piecesAll others) := by
    simp only [pieces, piecesAll, Form.pieces, h]
  exact ⟨_, by rw [tokens, hpieces, List.map_append]; rfl⟩

theorem tokens_opens {e : Expr} (h : e.isPlain = true) :
    ∃ t ts, e.tokens = t :: ts ∧ t.opens = true := by
  induction e using induction_of_operands with
  | hcolumn name => exact ⟨_, _, rfl, rfl⟩
  | hpath parts =>
      cases parts with
      | nil => cases h
      | cons name names => cases names <;> exact ⟨_, _, rfl, rfl⟩
  | hform head operands ih =>
      obtain ⟨hform, hoperands⟩ := plainWith_operands h
      have hfirst {e : Expr} {others : List Expr} (he : e ∈ operands)
          (hstarts : head.startsWithOperand = true) :
          ∃ t ts, (form head (e :: others)).tokens = t :: ts ∧ t.opens = true := by
        obtain ⟨t, ts, htokens, hopens⟩ := ih e he (hoperands e he)
        obtain ⟨more, hmore⟩ := tokens_startsWithOperand hstarts e others
        exact ⟨t, ts ++ more, by rw [hmore, htokens]; rfl, hopens⟩
      cases hform with
      | literal hvalue => exact ⟨_, _, rfl, Literal.opens_token hvalue⟩
      | plus e => exact ⟨_, _, tokens_plus e, rfl⟩
      | minus e => exact ⟨_, _, tokens_minus e, rfl⟩
      | not e => exact ⟨_, _, tokens_not e, rfl⟩
      | nested e => exact ⟨_, _, tokens_nested e, rfl⟩
      | tuple e e' es => exact ⟨_, _, tokens_tuple _, rfl⟩
      | _ => exact hfirst (by simp) rfl

theorem tokens_calm {e : Expr} (h : e.isPlain = true) : e.tokens.all Token.isCalm = true := by
  induction e using induction_of_operands with
  | hcolumn name => rfl
  | hpath parts =>
      clear h
      induction parts with
      | nil => rfl
      | cons name names ih =>
          cases names with
          | nil => rfl
          | cons name' names => exact ih
  | hform head operands ih =>
      obtain ⟨hform, hoperands⟩ := plainWith_operands h
      have hcalm {e : Expr} (he : e ∈ operands) : e.tokens.all Token.isCalm = true :=
        ih e he (hoperands e he)
      have hitems {es : List Expr} (hes : ∀ e ∈ es, e ∈ operands) :
          (commaTokens (es.map tokens)).all Token.isCalm = true := by
        refine isCalm_commaTokens fun ts hts => ?_
        obtain ⟨e, he, rfl⟩ := List.mem_map.1 hts
        exact hcalm (hes e he)
      cases hform with
      | literal hvalue => simp [tokens_literal, Literal.isCalm_token hvalue]
      | plus e =>
          rw [tokens_plus, List.all_cons, hcalm (by simp)]
          rfl
      | minus e =>
          rw [tokens_minus, List.all_cons, hcalm (by simp)]
          rfl
      | not e =>
          rw [tokens_not, List.all_cons, hcalm (by simp)]
          rfl
      | nested e =>
          rw [tokens_nested, List.all_cons, List.all_append, hcalm (by simp)]
          rfl
      | tuple e e' es =>
          rw [tokens_tuple, List.all_cons, List.all_append, hitems (by simp)]
          rfl
      | binary hop l r =>
          rw [tokens_binary, List.all_append, List.all_cons, BinaryOp.isCalm_token hop,
            hcalm (by simp), hcalm (by simp)]
          rfl
      | test negated what e =>
          rw [tokens_test, List.all_append, hcalm (by simp)]
          exact isCalm_notKeyword negated (isCalm_test what)
      | distinctFrom negated l r =>
          rw [tokens_distinctFrom, List.all_append, List.all_append, hcalm (by simp),
            hcalm (by simp), Bool.and_true]
          exact isCalm_notKeyword negated rfl
      | inList negated e item items =>
          rw [tokens_inList, List.all_append, List.all_append, List.all_cons, List.all_append,
            isCalm_notKeyword negated rfl, hcalm (by simp),
            hitems fun e he => List.mem_cons_of_mem _ he]
          rfl
      | between negated e low high =>
          rw [tokens_between, List.all_append, List.all_append, List.all_append, List.all_cons,
            isCalm_notKeyword negated rfl, hcalm (by simp), hcalm (by simp), hcalm (by simp)]
          rfl
      | like kind negated any e pattern =>
          have hwords : (keywordTokens (kind.keywords ++ if any then [.ANY] else [])).all
              Token.isCalm = true := by
            cases kind <;> cases any <;> rfl
          rw [tokens_like, List.append_assoc, List.all_append, List.all_append,
            isCalm_notKeyword negated hwords, hcalm (by simp), hcalm (by simp)]
          rfl
      | regexp negated rlike e pattern =>
          have hword : (keywordTokens [if rlike then .RLIKE else .REGEXP]).all
              Token.isCalm = true := by
            cases rlike <;> rfl
          rw [tokens_regexp, List.all_append, List.all_append, isCalm_notKeyword negated hword,
            hcalm (by simp), hcalm (by simp)]
          rfl
      | atTimeZone e zone =>
          rw [tokens_atTimeZone, List.all_append, List.all_append, hcalm (by simp), hcalm (by simp)]
          rfl

end Expr

end GeoLayers.Sql
