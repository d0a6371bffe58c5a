import GeoLayers.Proofs.Sql.Reread.Derivation
import GeoLayers.Proofs.Sql.Reread.Foreign
import GeoLayers.Proofs.Sql.Reread.Runs

/-!
How the operands start that the grammar reads. Each function has one lemma, under the assumption that
the grammar of the level below gives what the rules derive: its result is no path and no access chain,
and if it is plain then its tokens start it as the rules say.
-/

namespace GeoLayers.Sql.Parser

/-- How many operands a step of an access chain has. -/
def AccessStep.arity : AccessStep → Nat
  | .dot | .index => 1
  | .slice lower upper stride => lower.toNat + upper.toNat + stride.toNat

/-- A link with as many operands as its step has. -/
def Link.IsWhole (link : Link) : Prop := link.2.length = AccessStep.arity link.1

/-- What an expression after a period is: its links are some, they have their operands, and they are
names only if the expression is a name itself. -/
structure Linked (e : Expr) : Prop where
  nonempty : linksAfterPeriod e ≠ []
  whole : ∀ link ∈ linksAfterPeriod e, link.IsWhole
  unnamed : e.isName = false → (linksAfterPeriod e).mapM Link.name? = none

/-- A grammar whose plain results are derived, and whose results after a period are linked. -/
structure Grammar.Derives (g : Grammar) (R : Reading) : Prop where
  plain : ∀ {least ts x rest}, g.expr least ts = .ok (x, rest) → x.isPlain = true → R least ts x rest
  linked : ∀ {ts x rest}, g.expr periodStrength ts = .ok (x, rest) → Linked x

/-- What an operand is that is read from the given tokens: it is no chain, and it starts as the rules
say if it is plain. -/
structure Opens (R : Reading) (ts : List Token) (e : Expr) (rest : List Token) : Prop where
  single : e.isChain = false
  starts : e.isPlain = true → Starts R ts e rest

/-- A parser that reads the rest of an operand behind its first token. -/
def OpensAfter (R : Reading) (t : Token) (p : Parser Expr) : Prop :=
  ∀ ts e rest, p ts = .ok (e, rest) → Opens R (t :: ts) e rest

/-- Such a parser that may read nothing. -/
def OpensAfter? (R : Reading) (t : Token) (p : Parser (Option Expr)) : Prop :=
  ∀ ts e rest, p ts = .ok (some e, rest) → Opens R (t :: ts) e rest

section

variable {g : Grammar} {R : Reading} {ts rest : List Token} {e : Expr}

theorem opens_of_foreign (h : e.isForeign = true) : Opens R ts e rest := by
  refine ⟨Expr.isChain_of_isForeign h, fun hplain => ?_⟩
  rw [Expr.isPlain_of_isForeign h] at hplain
  cases hplain

/-- A construct with one operand is plain only if the operand is. -/
theorem isPlain_single {head : Form} (h : (Expr.form head [e]).isPlain = true) :
    e.isPlain = true :=
  (Expr.isPlain_form.1 h).2 e (by simp)

theorem constant_opens {t : Token} (ht : t.keyword? = none) : OpensAfter R t (constant t) := by
  intro ts e rest h
  cases hrun : literal (t :: ts) with
  | error fault => simp [constant, hrun, Except.map] at h
  | ok r =>
      obtain ⟨value, rest'⟩ := r
      simp only [constant, hrun, Except.map, Except.ok.injEq, Prod.mk.injEq] at h
      obtain ⟨rfl, rfl⟩ := h
      refine ⟨rfl, fun hplain => ?_⟩
      have hvalue : value.isPlain = true := (Expr.isPlain_literal value).symm.trans hplain
      have hnamed (mark : String) : Yields (literal.named mark) fun value => value.isPlain = false := by
        refine .step fun t => ?_
        split
        · exact .pure rfl
        · exact .pure rfl
        · exact .fail
      have hread : constant? t = some value ∧ ts = rest' := by
        obtain ⟨t', mid, hnext, hread⟩ := bind_eq_ok hrun
        obtain ⟨rfl, rfl⟩ := List.cons.inj (next_eq_ok hnext)
        split at hread
        · next w =>
          have hnone : w.keyword = none := ht
          simp only [hnone] at hread
          split at hread
          · obtain ⟨rfl, -⟩ := pure_eq_ok hread
            cases hvalue
          · cases hread
        · obtain ⟨rfl, rfl⟩ := pure_eq_ok hread
          exact ⟨rfl, rfl⟩
        · obtain ⟨rfl, rfl⟩ := pure_eq_ok hread
          exact ⟨rfl, rfl⟩
        · obtain ⟨rfl, -⟩ := pure_eq_ok hread
          cases hvalue
        · obtain ⟨rfl, -⟩ := pure_eq_ok hread
          cases hvalue
        · rw [hnamed _ _ _ _ hread] at hvalue
          cases hvalue
        · rw [hnamed _ _ _ _ hread] at hvalue
          cases hvalue
        · cases hread
      obtain ⟨hconstant, rfl⟩ := hread
      exact .constant hconstant ts

theorem plainWord_opens (value : Parser Expr) (w : Word) :
    OpensAfter R (.word w) (plainWord g value w) := by
  have hintroduced (body : Literal) : OpensAfter R (.word w) (plainWord.introduced w body) := by
    intro ts e rest h
    unfold plainWord.introduced at h
    split at h
    · obtain ⟨t, mid, -, hleaf⟩ := bind_eq_ok h
      obtain ⟨rfl, -⟩ := pure_eq_ok hleaf
      exact opens_of_foreign rfl
    · obtain ⟨rfl, rfl⟩ := pure_eq_ok h
      exact ⟨rfl, fun _ => .column w ts⟩
  intro ts e rest h
  obtain ⟨t, mid, hpeek, hword⟩ := bind_eq_ok h
  obtain ⟨-, rfl⟩ := Prod.mk.inj (Except.ok.inj hpeek)
  split at hword
  · exact opens_of_foreign (functionExpr_foreign g _ _ _ _ _ hword)
  · exact hintroduced _ _ _ _ hword
  · exact hintroduced _ _ _ _ hword
  · obtain ⟨rfl, rfl⟩ := pure_eq_ok hword
    exact ⟨rfl, fun _ => .column w _⟩

end

section

variable {g : Grammar} {R : Reading} (hg : g.Derives R) {ts rest : List Token} {e : Expr}

include hg

theorem items_of_commaLoop {fuel : Nat} {es : List Expr}
    (h : commaLoop (g.expr 0) fuel ts = .ok (es, rest)) (hplain : ∀ e ∈ es, e.isPlain = true) :
    Items R ts es rest := by
  induction fuel generalizing ts es with
  | zero => cases h
  | succ fuel ih =>
      obtain ⟨e, mid, he, hmid⟩ := bind_eq_ok h
      obtain ⟨there, mid', hcomma, hmore⟩ := bind_eq_ok hmid
      obtain ⟨rfl, rfl⟩ | ⟨rfl, rfl, -⟩ := symbol?_eq_ok hcomma
      · rw [if_pos rfl] at hmore
        obtain ⟨others, last, hothers, hlast⟩ := bind_eq_ok hmore
        obtain ⟨rfl, rfl⟩ := pure_eq_ok hlast
        obtain ⟨hfirst, hrest⟩ := List.forall_mem_cons.1 hplain
        exact .more (hg.plain he hfirst) (ih hothers hrest)
      · rw [if_neg (by simp)] at hmore
        obtain ⟨rfl, rfl⟩ := pure_eq_ok hmore
        exact .one (hg.plain he (hplain e (by simp)))

theorem notExpr_opens {t : Token} (ht : t.keyword? = some .NOT) : OpensAfter R t (notExpr g) := by
  intro ts e rest h
  obtain ⟨there, mid, hexists, hmid⟩ := bind_eq_ok h
  obtain ⟨rfl, -⟩ | ⟨rfl, rfl, -⟩ := keyword?_eq_ok hexists
  · rw [if_pos rfl] at hmid
    exact opens_of_foreign (existsExpr_foreign g true _ _ _ hmid)
  · rw [if_neg (by simp)] at hmid
    obtain ⟨inner, last, hinner, hlast⟩ := bind_eq_ok hmid
    obtain ⟨rfl, rfl⟩ := pure_eq_ok hlast
    exact ⟨rfl, fun hplain => .not ht (hg.plain hinner (isPlain_single hplain))⟩

theorem special_opens (value : Parser Expr) (w : Word) :
    OpensAfter? R (.word w) (special? g value w) := by
  have hforeign {p : Parser (Option Expr)} (hp : YieldsForeign? p) : OpensAfter? R (.word w) p :=
    fun ts e rest h => opens_of_foreign (hp ts _ rest h e rfl)
  have hposition (name : Ident) : YieldsForeign? (do
      if ← peekSymbol .lParen then some <$> positionExpr g (intervalExpr value) name
      else pure none) :=
    .step fun _ => .ite (fun _ => yieldsForeign_some (positionExpr_foreign g _ _))
      fun _ => yieldsForeign_none
  have harray (name : Ident) : YieldsForeign? (do
      if ← symbol? .lBracket then some <$> arrayExpr g true
      else if ← peekSymbol .lParen then some <$> arrayQueryExpr g name
      else pure none) :=
    .step fun _ => .ite (fun _ => yieldsForeign_some (arrayExpr_foreign g true)) fun _ =>
      .step fun _ => .ite (fun _ => yieldsForeign_some (arrayQueryExpr_foreign g _)) fun _ =>
        yieldsForeign_none
  have hconstant {literal : Literal} (hread : constant? (.word w) = some literal) :
      OpensAfter? R (.word w) (pure (some (leaf (.literal literal)))) := by
    intro ts e rest h
    obtain ⟨he, rfl⟩ := pure_eq_ok h
    obtain rfl := Option.some.inj he
    exact ⟨rfl, fun _ => .constant hread ts⟩
  unfold special?
  dsimp only
  split
  case h_1 hk => exact hconstant (by simp only [constant?, hk])
  case h_2 hk => exact hconstant (by simp only [constant?, hk])
  case h_3 hk => exact hconstant (by simp only [constant?, hk])
  all_goals with_reducible first
    | exact hforeign yieldsForeign_none
    | exact hforeign (.pure (by simp [leaf, Expr.isForeign, Form.isForeign]))
    | exact hforeign (geometricText_foreign _)
    | exact hforeign (yieldsForeign_some (intervalExpr_foreign _))
    | exact hforeign (yieldsForeign_some (clockExpr_foreign g _))
    | exact hforeign (yieldsForeign_some (caseExpr_foreign g))
    | exact hforeign (yieldsForeign_some (convertExpr_foreign g))
    | exact hforeign (yieldsForeign_some (castExpr_foreign g _))
    | exact hforeign (yieldsForeign_some (existsExpr_foreign g _))
    | exact hforeign (yieldsForeign_some (extractExpr_foreign g))
    | exact hforeign (yieldsForeign_some (roundExpr_foreign g _))
    | exact hforeign (yieldsForeign_some (substringExpr_foreign g))
    | exact hforeign (yieldsForeign_some (overlayExpr_foreign g))
    | exact hforeign (yieldsForeign_some (trimExpr_foreign g))
    | exact hforeign (hposition _)
    | exact hforeign (harray _)
    | skip
  next hk =>
    intro ts e rest h
    obtain ⟨found, hnot, hfound⟩ := map_eq_ok h
    obtain rfl := Option.some.inj hfound
    exact notExpr_opens hg (t := .word w) hk _ _ _ hnot

theorem wordOperand_opens {value : Parser Expr} {w : Word} {r : Expr × Bool}
    (h : wordOperand g value w ts = .ok (r, rest)) : Opens R (.word w :: ts) r.1 rest := by
  unfold wordOperand at h
  split at h
  · next hrun =>
    obtain ⟨rfl, rfl⟩ := Prod.mk.inj (Except.ok.inj h)
    exact special_opens hg value w _ _ _ hrun
  · cases hrun : plainWord g value w ts with
    | error fault => simp [hrun, Except.map] at h
    | ok r' =>
        simp only [hrun, Except.map, Except.ok.injEq, Prod.mk.injEq] at h
        obtain ⟨rfl, rfl⟩ := h
        exact plainWord_opens value w _ _ _ hrun
  · split at h
    · cases h
    · split at h
      · next hrun =>
        obtain ⟨rfl, rfl⟩ := Prod.mk.inj (Except.ok.inj h)
        exact plainWord_opens value w _ _ _ hrun
      · cases h

theorem bracketOperand_opens : OpensAfter R (.symbol .lParen) (bracketOperand g) := by
  intro ts e rest h
  obtain ⟨there, mid, hquery, hmid⟩ := bind_eq_ok h
  split at hmid
  · obtain ⟨q, mid', -, hclose⟩ := bind_eq_ok hmid
    obtain ⟨u, last, -, hlast⟩ := bind_eq_ok hclose
    obtain ⟨rfl, -⟩ := pure_eq_ok hlast
    exact opens_of_foreign rfl
  · have hstays : mid = ts := atQuery_stays hquery
    obtain rfl := hstays
    obtain ⟨items, mid', hitems, hclose⟩ := bind_eq_ok hmid
    obtain ⟨u, last, hparen, hlast⟩ := bind_eq_ok hclose
    obtain rfl := symbol_eq_ok hparen
    split at hlast
    · next inner =>
      obtain ⟨rfl, rfl⟩ := pure_eq_ok hlast
      refine ⟨rfl, fun hplain => ?_⟩
      have hinner := items_of_commaLoop hg hitems (Expr.isPlain_form.1 hplain).2
      cases hinner with
      | one h => exact .nested h
      | more _ hmore => cases hmore
    · next hnot =>
      obtain ⟨rfl, rfl⟩ := pure_eq_ok hlast
      refine ⟨rfl, fun hplain => ?_⟩
      have hinner := items_of_commaLoop hg hitems (Expr.isPlain_form.1 hplain).2
      match items, hnot, hinner with
      | e :: e' :: es, _, hinner => exact .tuple hinner
      | [e], hnot, _ => exact absurd rfl (hnot e)

theorem signed_opens {s : Symbol} {op : UnaryOp}
    (h : ∀ {ts rest e}, R productStrength ts e rest →
      Starts R (.symbol s :: ts) (.form (.unary op) [e]) rest) :
    OpensAfter R (.symbol s) (signed g op productStrength) := by
  intro ts e rest hrun
  obtain ⟨inner, mid, hinner, hlast⟩ := bind_eq_ok hrun
  obtain ⟨rfl, rfl⟩ := pure_eq_ok hlast
  exact ⟨rfl, fun hplain => h (hg.plain hinner (isPlain_single hplain))⟩

theorem tokenOperand_opens {value : Parser Expr} {t : Token} {r : Expr × Bool}
    (h : tokenOperand g value t ts = .ok (r, rest)) : Opens R (t :: ts) r.1 rest := by
  have hopens {p : Parser Expr} (hp : OpensAfter R t p)
      (h : ((·, true) <$> p) ts = .ok (r, rest)) : Opens R (t :: ts) r.1 rest := by
    obtain ⟨e, hrun, rfl⟩ := map_eq_ok h
    exact hp _ _ _ hrun
  have hforeign {p : Parser Expr} (hp : YieldsForeign p)
      (h : ((·, true) <$> p) ts = .ok (r, rest)) : Opens R (t :: ts) r.1 rest := by
    obtain ⟨e, hrun, rfl⟩ := map_eq_ok h
    exact opens_of_foreign (hp _ _ _ hrun)
  cases t with
  | word w => exact wordOperand_opens hg h
  | number digits long => exact hopens (constant_opens rfl) h
  | text kind body => exact hopens (constant_opens rfl) h
  | dollarText tag body => exact hopens (constant_opens rfl) h
  | placeholder name => exact hopens (constant_opens rfl) h
  | operator run => cases h
  | other c => cases h
  | symbol s =>
      cases s with
      | lBracket => exact hforeign (arrayExpr_foreign g false) h
      | minus => exact hopens (signed_opens hg .minus) h
      | plus => exact hopens (signed_opens hg .plus) h
      | doubleBang | squareRoot | cubeRoot | atSign | tilde | sharp | atDashAt | atAt | questionDash
      | questionPipe => exact hforeign (signed_foreign g rfl _) h
      | lParen => exact hopens (bracketOperand_opens hg) h
      | lBrace => exact hforeign (braceOperand_foreign g value) h
      | colon => exact hopens (constant_opens rfl) h
      | _ => cases h

theorem operandWith_opens {fuel : Nat} (h : operandWith g fuel ts = .ok (e, rest)) :
    Opens R ts e rest := by
  cases fuel with
  | zero => cases h
  | succ fuel =>
      obtain ⟨typed, mid, htyped, hmid⟩ := bind_eq_ok h
      obtain ⟨e', rfl, hrun⟩ | ⟨rfl, rfl⟩ := attempt_eq_ok htyped
      · obtain ⟨rfl, -⟩ := pure_eq_ok hmid
        exact opens_of_foreign (typedText_foreign _ _ _ _ hrun)
      · obtain ⟨t, mid', hnext, hoperand⟩ := bind_eq_ok hmid
        obtain rfl := next_eq_ok hnext
        obtain ⟨⟨e', collatable⟩, last, htoken, hlast⟩ := bind_eq_ok hoperand
        have he' : Opens R (t :: mid') e' last := tokenOperand_opens hg htoken
        dsimp only at hlast
        split at hlast
        · obtain ⟨there, last', hcollate, hend⟩ := bind_eq_ok hlast
          obtain ⟨rfl, -⟩ | ⟨rfl, rfl, -⟩ := keyword?_eq_ok hcollate
          · rw [if_pos rfl] at hend
            obtain ⟨collation, last'', -, hpure⟩ := bind_eq_ok hend
            obtain ⟨rfl, -⟩ := pure_eq_ok hpure
            exact opens_of_foreign rfl
          · rw [if_neg (by simp)] at hend
            obtain ⟨rfl, rfl⟩ := pure_eq_ok hend
            exact he'
        · obtain ⟨rfl, rfl⟩ := pure_eq_ok hlast
          exact he'

end

end GeoLayers.Sql.Parser
