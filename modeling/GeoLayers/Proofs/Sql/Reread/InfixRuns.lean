import GeoLayers.Proofs.Sql.Reread.OperandRuns

/-!
What the grammar reads from the tokens that a plain operand goes on with: an operator, `IS`, `IN`,
`BETWEEN`, a test of likeness or a time zone.
-/

namespace GeoLayers.Sql.Parser

/-- Whether a plain operand is in front. -/
def StartsOpen (ts : List Token) : Prop := ∃ t more, ts = t :: more ∧ t.opens = true

theorem keyword?_same (k : Keyword) (ts : List Token) :
    keyword? k (k.token :: ts) = .ok (true, ts) :=
  if_pos rfl

theorem keyword?_other {k k' : Keyword} (hne : k' ≠ k) (ts : List Token) :
    keyword? k (k'.token :: ts) = .ok (false, k'.token :: ts) :=
  keyword?_missing fun heq => hne (Option.some.inj heq)

/-- A plain operand starts with none of the words that are asked for in front of one. -/
theorem keyword?_operand {ts : List Token} (h : StartsOpen ts) {k : Keyword}
    (hk : k ∉ [.NOT, .TRUE, .FALSE, .NULL]) : keyword? k ts = .ok (false, ts) := by
  obtain ⟨t, more, rfl, ht⟩ := h
  refine keyword?_missing fun hkeyword => hk ?_
  exact keyword_of_opens ht hkeyword

/-- A plain operand starts no query. -/
theorem atQuery_run {ts : List Token} (h : StartsOpen ts) : atQuery ts = .ok (false, ts) := by
  obtain ⟨t, more, rfl, ht⟩ := h
  have hpeek : peekKeyword? (t :: more) = .ok (t.keyword?, t :: more) := rfl
  rw [atQuery, bind_run hpeek]
  cases hk : t.keyword? with
  | none => rfl
  | some k =>
      have hmem := keyword_of_opens ht hk
      simp only [List.mem_cons, List.not_mem_nil, or_false] at hmem
      obtain rfl | rfl | rfl | rfl := hmem <;> rfl

/-- `NOT` is taken where it is. -/
theorem notKeyword_run (negated : Bool) {k : Keyword} (hk : k ≠ .NOT) (ks : List Keyword)
    (ts : List Token) : keyword? .NOT (keywordTokens (notKeyword negated ++ k :: ks) ++ ts) =
      .ok (negated, k.token :: (keywordTokens ks ++ ts)) := by
  cases negated with
  | false => exact keyword?_other hk _
  | true => exact keyword?_same .NOT _

section

variable {g : Grammar} {ts rest : List Token} (e : Expr) {r : Expr} (negated : Bool)

theorem isTest_run (what : Test) :
    isTest g e (keywordTokens (notKeyword negated ++ what.keywords) ++ ts) =
      .ok (.form (.test negated what) [e], ts) := by
  cases negated <;> cases what with
  | normalized form => cases form with
    | none => rfl
    | some form => cases form <;> rfl
  | _ => rfl

theorem isTest_distinct (h : g.expr 0 ts = .ok (r, rest)) :
    isTest g e (keywordTokens (notKeyword negated ++ [.DISTINCT, .FROM]) ++ ts) =
      .ok (.form (.distinctFrom negated) [e, r], rest) := by
  have hwords : oneOf? [.NULL, .TRUE, .FALSE, .UNKNOWN]
      (Keyword.DISTINCT.token :: (keywordTokens [.FROM] ++ ts)) =
        .ok (none, Keyword.DISTINCT.token :: (keywordTokens [.FROM] ++ ts)) := rfl
  have hdistinct : keywords? [.DISTINCT, .FROM]
      (Keyword.DISTINCT.token :: (keywordTokens [.FROM] ++ ts)) = .ok (true, ts) := rfl
  rw [isTest, bind_run (notKeyword_run negated (by decide) _ _)]
  dsimp only
  rw [bind_assoc, bind_run hwords]
  dsimp only
  rw [bind_assoc, bind_run hdistinct, if_pos rfl, bind_assoc, bind_run h]
  rfl

theorem rangeTest_in :
    rangeTest g e (keywordTokens (notKeyword negated ++ [.IN]) ++ ts) = inExpr g e negated ts := by
  cases negated <;> rfl

theorem rangeTest_likeExpr (kind : LikeKind) (ks : List Keyword) :
    rangeTest g e (keywordTokens (notKeyword negated ++ kind.keywords ++ ks) ++ ts) =
      likeExpr g kind e negated (keywordTokens ks ++ ts) := by
  cases negated <;> cases kind <;> rfl

theorem rangeTest_inList {es : List Expr} (hts : StartsOpen ts)
    (h : commaSeparated (g.expr 0) ts = .ok (es, .symbol .rParen :: rest)) :
    rangeTest g e (keywordTokens (notKeyword negated ++ [.IN]) ++ .symbol .lParen :: ts) =
      .ok (.form (.inList negated) (e :: es), rest) := by
  have hunnest : keyword? .UNNEST (.symbol .lParen :: ts) = .ok (false, .symbol .lParen :: ts) := rfl
  rw [rangeTest_in, inExpr, bind_run hunnest, if_neg (by simp), bracketed,
    bind_run (symbol_there _ _), bind_assoc, bind_run (atQuery_run hts), if_neg (by simp),
    bind_assoc, bind_run h, pure_bind]
  exact bind_run (symbol_there _ _) _

theorem rangeTest_between {mid last : List Token} {low high : Expr}
    (hlow : g.expr likeStrength ts = .ok (low, Keyword.AND.token :: mid))
    (hhigh : g.expr likeStrength mid = .ok (high, last)) :
    rangeTest g e (keywordTokens (notKeyword negated ++ [.BETWEEN]) ++ ts) =
      .ok (.form (.between negated) [e, low, high], last) := by
  have hand : keyword .AND (Keyword.AND.token :: mid) = .ok ((), mid) :=
    bind_run (keyword?_same _ _) _
  have hwords : rangeTest g e (keywordTokens (notKeyword negated ++ [.BETWEEN]) ++ ts) = (do
      let low ← g.expr likeStrength
      keyword .AND
      let high ← g.expr likeStrength
      pure (Expr.form (.between negated) [e, low, high])) ts := by
    cases negated <;> rfl
  rw [hwords, bind_run hlow, bind_run hand, bind_run hhigh]
  rfl

theorem likeExpr_run (kind : LikeKind) (any : Bool) (hany : kind = .similar → any = false)
    (hts : StartsOpen ts) (h : g.expr likeStrength ts = .ok (r, rest))
    (hrest : Trails rest) :
    likeExpr g kind e negated (keywordTokens (if any then [.ANY] else []) ++ ts) =
      .ok (.form (.like kind negated any none) [e, r], rest) := by
  have hescape : escape? rest = .ok (none, rest) :=
    bind_run (keyword?_missing (keyword_of_trails hrest).2) _
  have hmatched : (do
      let pattern ← g.expr likeStrength
      let escape ← escape?
      pure (Expr.form (.like kind negated any escape) [e, pattern])) ts =
        .ok (.form (.like kind negated any none) [e, r], rest) := by
    rw [bind_run h, bind_run hescape]
    rfl
  have hword : keyword? .ANY (keywordTokens (if any then [.ANY] else []) ++ ts) = .ok (any, ts) := by
    cases any with
    | true => exact keyword?_same _ _
    | false => exact keyword?_operand hts (by decide)
  cases kind with
  | similar =>
      rw [hany rfl] at hmatched ⊢
      exact hmatched
  | like | ilike => exact (bind_run hword _).trans hmatched

theorem rangeTest_like (kind : LikeKind) (any : Bool) (hany : kind = .similar → any = false)
    (hts : StartsOpen ts) (h : g.expr likeStrength ts = .ok (r, rest)) (hrest : Trails rest) :
    rangeTest g e (keywordTokens (notKeyword negated ++ kind.keywords ++
        if any then [.ANY] else []) ++ ts) =
      .ok (.form (.like kind negated any none) [e, r], rest) := by
  rw [rangeTest_likeExpr]
  exact likeExpr_run e negated kind any hany hts h hrest

theorem rangeTest_regexp (rlike : Bool) (hts : StartsOpen ts)
    (h : g.expr likeStrength ts = .ok (r, rest)) :
    rangeTest g e (keywordTokens (notKeyword negated ++ [if rlike then .RLIKE else .REGEXP]) ++
      ts) = .ok (.form (.regexp negated rlike) [e, r], rest) := by
  cases rlike with
  | true =>
      rw [if_pos rfl, rangeTest, bind_run (notKeyword_run negated (by decide) _ _),
        bind_run (keyword?_other (by decide) _), bind_run (keyword?_same _ _), if_pos (by simp)]
      exact bind_run h _
  | false =>
      rw [if_neg (by simp), rangeTest, bind_run (notKeyword_run negated (by decide) _ _),
        bind_run (keyword?_same _ _)]
      change (keyword? .RLIKE >>= _) ts = _
      rw [bind_run (keyword?_operand hts (by decide)), if_pos (by simp)]
      exact bind_run h _

end

/-- The operator that a token is. -/
theorem binaryOp?_run {t : Token} {op : BinaryOp} (h : infix? t = some op) (ts : List Token) :
    binaryOp? (t :: ts) = .ok (some op, ts) := by
  cases t with
  | symbol s =>
      have hs : binarySymbol? s = some op := h
      simp only [binaryOp?, hs]
  | word w =>
      simp only [infix?] at h
      split at h
      case h_5 => cases h
      all_goals
        next hk =>
        obtain rfl := Option.some.inj h
        simp only [binaryOp?, hk]
  | _ => cases h

/-- An operator that is read is written as a token for the operator, and binds as strongly. -/
theorem infix_token {t : Token} {op : BinaryOp} (h : infix? t = some op) :
    infix? op.token = some op ∧ op.token.ends = true ∧
      ∀ ts ts', strength (op.token :: ts) = strength (t :: ts') := by
  cases t with
  | symbol s =>
      have hs : binarySymbol? s = some op := h
      cases s <;> cases hs
      all_goals exact ⟨rfl, rfl, fun _ _ => rfl⟩
  | word w =>
      simp only [infix?] at h
      split at h
      case h_5 => cases h
      all_goals
        next hk =>
        obtain rfl := Option.some.inj h
        exact ⟨rfl, rfl, fun _ _ => by simp only [strength, hk]; rfl⟩
  | _ => cases h

theorem rightSide_run {g : Grammar} {ts rest : List Token} {r : Expr} {least : Nat} (e : Expr)
    (op : BinaryOp) (hts : StartsOpen ts) (h : g.expr least ts = .ok (r, rest)) :
    rightSide g e op least ts = .ok (.form (.binary op) [e, r], rest) := by
  obtain ⟨t, more, rfl, ht⟩ := hts
  have hwords : oneOf? [.ANY, .ALL, .SOME] (t :: more) = .ok (none, t :: more) := by
    refine oneOf?_missing fun k hk hkeyword => ?_
    have hmem := keyword_of_opens ht hkeyword
    simp only [List.mem_cons, List.not_mem_nil, or_false] at hk hmem
    obtain rfl | rfl | rfl := hk <;> simp at hmem
  rw [rightSide, bind_run hwords]
  exact bind_run h _

end GeoLayers.Sql.Parser
