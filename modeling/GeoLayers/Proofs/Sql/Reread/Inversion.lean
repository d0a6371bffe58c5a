import GeoLayers.Proofs.Sql.Reread.Chains

/-!
Every plain condition that the grammar reads is derived by the rules: the operators that an operand
goes on with, and from them the levels of the grammar by induction.
-/

namespace GeoLayers.Sql.Parser

section

variable {g : Grammar} {R : Reading} {ts mid rest : List Token} {e x : Expr}

/-- What a parser that reads only constructs that are not plain has not read. -/
theorem not_plain_of_run {p : Parser Expr} (h : p ts = .ok (x, rest)) (hp : YieldsForeign p)
    {P : Prop} (hx : x.isPlain = true) : P := by
  rw [Expr.isPlain_of_isForeign (hp _ _ _ h)] at hx
  cases hx

theorem isPlain_first {head : Form} {operands : List Expr}
    (h : (Expr.form head (e :: operands)).isPlain = true) :
    e.isPlain = true ∧ ∀ e ∈ operands, e.isPlain = true :=
  List.forall_mem_cons.1 (Expr.isPlain_form.1 h).2

theorem isTest_derives (hg : g.Derives R) (hs : strength ts = isStrength) (hskip : Skips ts mid)
    (h : isTest g e mid = .ok (x, rest)) (hx : x.isPlain = true) : Extends R e ts x rest := by
  have htest {last : List Token} (hlast : Skips ts last) (negated : Bool) (what : Test) :
      Extends R e ts (.form (.test negated what) [e]) last := by
    obtain ⟨ks, hks⟩ := hlast
    exact .test hs hks negated what
  obtain ⟨negated, mid', hnot, hmid'⟩ := bind_eq_ok h
  obtain ⟨found, mid'', hsimple, hfound⟩ := bind_eq_ok hmid'
  have hstart : Skips ts mid' := hskip.trans (.keyword? hnot)
  obtain ⟨k, mid₃, hk, hread⟩ := bind_eq_ok hsimple
  have hword : Skips ts mid₃ := hstart.trans (.oneOf? hk)
  split at hread
  case h_5 =>
    obtain ⟨there, mid₄, hdistinct, hother⟩ := bind_eq_ok hread
    have hboth : Skips ts mid₄ := hword.trans (.keywords? hdistinct)
    split at hother
    · obtain ⟨other, mid₅, hrun, hlast⟩ := bind_eq_ok hother
      obtain ⟨rfl, rfl⟩ := pure_eq_ok hlast
      obtain ⟨rfl, rfl⟩ := pure_eq_ok hfound
      obtain ⟨ks, hks⟩ := hboth
      exact .distinctFrom hs hks negated (hg.plain hrun ((isPlain_first hx).2 _ (by simp)))
    · obtain ⟨rfl, rfl⟩ := pure_eq_ok hother
      dsimp only at hfound
      obtain ⟨form, mid₅, hform, hnamed⟩ := bind_eq_ok hfound
      have hlast : Skips ts mid₅ := hboth.trans (.oneOf? hform)
      split at hnamed
      all_goals
        obtain ⟨form, mid₆, hpure, hend⟩ := bind_eq_ok hnamed
        obtain ⟨rfl, rfl⟩ := pure_eq_ok hpure
        obtain ⟨u, last', hword, hform⟩ := bind_eq_ok hend
        obtain ⟨rfl, rfl⟩ := pure_eq_ok hform
        exact htest (hlast.trans ⟨_, keyword_eq_ok hword⟩) _ _
  all_goals
    obtain ⟨rfl, rfl⟩ := pure_eq_ok hread
    obtain ⟨rfl, rfl⟩ := pure_eq_ok hfound
    exact htest hword _ _

theorem inExpr_derives (hg : g.Derives R) {negated : Bool} (hs : strength ts = likeStrength)
    (hskip : Skips ts mid) (h : inExpr g e negated mid = .ok (x, rest)) (hx : x.isPlain = true) :
    Extends R e ts x rest := by
  obtain ⟨unnest, mid', hword, hmid'⟩ := bind_eq_ok h
  have hstart : Skips ts mid' := hskip.trans (.keyword? hword)
  split at hmid'
  · obtain ⟨array, mid'', -, hlast⟩ := bind_eq_ok hmid'
    obtain ⟨rfl, -⟩ := pure_eq_ok hlast
    cases hx
  · obtain ⟨inside, rfl, hinside⟩ := bracketed_eq_ok hmid'
    obtain ⟨query, mid'', hquery, hitems⟩ := bind_eq_ok hinside
    have hstays : mid'' = inside := atQuery_stays hquery
    obtain rfl := hstays
    split at hitems
    · obtain ⟨q, last, -, hlast⟩ := bind_eq_ok hitems
      obtain ⟨rfl, -⟩ := pure_eq_ok hlast
      cases hx
    · obtain ⟨items, last, hread, hlast⟩ := bind_eq_ok hitems
      obtain ⟨rfl, rfl⟩ := pure_eq_ok hlast
      have hderives := items_of_commaLoop hg hread (isPlain_first hx).2
      obtain ⟨ks, hks⟩ := hstart
      match items, hderives with
      | item :: items, hderives => exact .inList hs hks negated hderives

theorem likeExpr_derives (hg : g.Derives R) {kind : LikeKind} {negated : Bool}
    (hs : strength ts = likeStrength) (hskip : Skips ts mid)
    (h : likeExpr g kind e negated mid = .ok (x, rest)) (hx : x.isPlain = true) :
    Extends R e ts x rest := by
  have hmatched {any : Bool} {last : List Token} (hlast : Skips ts last)
      (hany : kind = .similar → any = false)
      (h : (do
        let pattern ← g.expr likeStrength
        let escape ← escape?
        pure (Expr.form (.like kind negated any escape) [e, pattern])) last = .ok (x, rest)) :
      Extends R e ts x rest := by
    obtain ⟨pattern, last', hpattern, hescape⟩ := bind_eq_ok h
    obtain ⟨escape, last'', hread, hend⟩ := bind_eq_ok hescape
    obtain ⟨rfl, rfl⟩ := pure_eq_ok hend
    cases escape with
    | some escape => cases hx
    | none =>
        obtain ⟨there, last₃, hword, hbody⟩ := bind_eq_ok hread
        obtain ⟨rfl, -⟩ | ⟨rfl, rfl, -⟩ := keyword?_eq_ok hword
        · rw [if_pos rfl] at hbody
          obtain ⟨body, -, hsome⟩ := map_eq_ok hbody
          cases hsome
        · rw [if_neg (by simp)] at hbody
          obtain ⟨-, rfl⟩ := pure_eq_ok hbody
          obtain ⟨ks, hks⟩ := hlast
          exact .like hs hks kind negated any hany
            (hg.plain hpattern ((isPlain_first hx).2 _ (by simp)))
  cases kind with
  | similar =>
      obtain ⟨any, last, hany, hlast⟩ := bind_eq_ok h
      obtain ⟨rfl, rfl⟩ := pure_eq_ok hany
      exact hmatched hskip (fun _ => rfl) hlast
  | like | ilike =>
      obtain ⟨any, last, hany, hlast⟩ := bind_eq_ok h
      exact hmatched (hskip.trans (.keyword? hany)) nofun hlast

theorem rangeTest_derives (hg : g.Derives R) (hs : strength ts = likeStrength)
    (h : rangeTest g e ts = .ok (x, rest)) (hx : x.isPlain = true) : Extends R e ts x rest := by
  obtain ⟨negated, mid₁, hnot, h₁⟩ := bind_eq_ok h
  obtain ⟨regexp, mid₂, hregexp, h₂⟩ := bind_eq_ok h₁
  obtain ⟨rlike, mid₃, hrlike, h₃⟩ := bind_eq_ok h₂
  have hskip₃ : Skips ts mid₃ :=
    ((Skips.keyword? hnot).trans (.keyword? hregexp)).trans (.keyword? hrlike)
  split at h₃
  · obtain ⟨pattern, last, hpattern, hlast⟩ := bind_eq_ok h₃
    obtain ⟨rfl, rfl⟩ := pure_eq_ok hlast
    obtain ⟨ks, hks⟩ := hskip₃
    exact .regexp hs hks negated _ (hg.plain hpattern ((isPlain_first hx).2 _ (by simp)))
  obtain ⟨isIn, mid₄, hin, h₄⟩ := bind_eq_ok h₃
  have hskip₄ := hskip₃.trans (.keyword? hin)
  split at h₄
  · exact inExpr_derives hg hs hskip₄ h₄ hx
  obtain ⟨between, mid₅, hbetween, h₅⟩ := bind_eq_ok h₄
  have hskip₅ := hskip₄.trans (.keyword? hbetween)
  split at h₅
  · obtain ⟨low, mid', hlow, hmid'⟩ := bind_eq_ok h₅
    obtain ⟨u, mid'', hand, hmid''⟩ := bind_eq_ok hmid'
    obtain ⟨high, last, hhigh, hlast⟩ := bind_eq_ok hmid''
    obtain ⟨rfl, rfl⟩ := pure_eq_ok hlast
    have hplain := (isPlain_first hx).2
    obtain ⟨ks, hks⟩ := hskip₅
    exact .between hs hks negated (hg.plain hlow (hplain _ (by simp))) (keyword_eq_ok hand)
      (hg.plain hhigh (hplain _ (by simp)))
  obtain ⟨like, mid₆, hlike, h₆⟩ := bind_eq_ok h₅
  have hskip₆ := hskip₅.trans (.keyword? hlike)
  split at h₆
  · exact likeExpr_derives hg hs hskip₆ h₆ hx
  obtain ⟨ilike, mid₇, hilike, h₇⟩ := bind_eq_ok h₆
  have hskip₇ := hskip₆.trans (.keyword? hilike)
  split at h₇
  · exact likeExpr_derives hg hs hskip₇ h₇ hx
  obtain ⟨similar, mid₈, hsimilar, h₈⟩ := bind_eq_ok h₇
  have hskip₈ := hskip₇.trans (.keywords? hsimilar)
  split at h₈
  · exact likeExpr_derives hg hs hskip₈ h₈ hx
  · cases h₈

/-- A plain operator that is read is the one that its token is. -/
theorem infix_of_binaryOp {op : BinaryOp} (h : binaryOp? ts = .ok (some op, rest))
    (hop : op.isPlain = true) : ∃ t, ts = t :: rest ∧ infix? t = some op := by
  unfold binaryOp? at h
  split at h
  · next s ts =>
    split at h
    · next op' hs =>
      obtain ⟨hop, rfl⟩ := Prod.mk.inj (Except.ok.inj h)
      exact ⟨_, rfl, hs.trans hop⟩
    · cases h
  · obtain ⟨hop', -⟩ := Prod.mk.inj (Except.ok.inj h)
    obtain rfl := Option.some.inj hop'
    cases hop
  · next w ts =>
    split at h
    case h_5 =>
      cases hpath : bracketed (operatorPath (ts.length + 1)) ts with
      | error fault => simp [hpath, Except.map] at h
      | ok r =>
          simp only [hpath, Except.map, Except.ok.injEq, Prod.mk.injEq, Option.some.injEq] at h
          rw [← h.1] at hop
          cases hop
    case h_6 => cases h
    all_goals
      next hk =>
      obtain ⟨hop', rfl⟩ := Prod.mk.inj (Except.ok.inj h)
      exact ⟨_, rfl, by simp only [infix?, hk, ← hop']⟩
  · cases h

theorem stays_of_binaryOp (h : binaryOp? ts = .ok (none, rest)) : rest = ts := by
  unfold binaryOp? at h
  split at h
  · split at h
    · cases h
    · exact (Prod.mk.inj (Except.ok.inj h)).2.symm
  · cases h
  · next w ts =>
    split at h
    case h_5 =>
      cases hpath : bracketed (operatorPath (ts.length + 1)) ts with
      | error fault => simp [hpath, Except.map] at h
      | ok r => simp [hpath, Except.map] at h
    case h_6 => exact (Prod.mk.inj (Except.ok.inj h)).2.symm
    all_goals cases h
  · exact (Prod.mk.inj (Except.ok.inj h)).2.symm

theorem rightSide_derives (hg : g.Derives R) {op : BinaryOp} {strength : Nat}
    (h : rightSide g e op strength ts = .ok (x, rest)) (hx : x.isPlain = true) :
    ∃ r, x = .form (.binary op) [e, r] ∧ op.isPlain = true ∧ R strength ts r rest := by
  obtain ⟨k, mid, hk, hmid⟩ := bind_eq_ok h
  cases k with
  | some k =>
      refine not_plain_of_run hmid (.step fun t => ?_) hx
      extract_lets quantifier compared
      have hcompared (right : Expr) : YieldsForeign (compared right) :=
        .ite (fun _ => .pure rfl) fun _ => .fail
      split
      · exact .step fun bracket => .ite (fun _ => .step hcompared) fun _ => .step hcompared
      · exact .step hcompared
  | none =>
      obtain rfl := stays_of_oneOf hk
      obtain ⟨right, last, hright, hlast⟩ := bind_eq_ok hmid
      obtain ⟨rfl, rfl⟩ := pure_eq_ok hlast
      have hop : op.isPlain = true := by
        simp only [Expr.isPlain, Form.isPlain, Bool.and_eq_true] at hx
        exact hx.1.1
      exact ⟨right, rfl, hop, hg.plain hright ((isPlain_first hx).2 _ (by simp))⟩

/-- The tests for membership, range and likeness that bind at all bind like `LIKE`. -/
theorem strength_rangeTest {t : Token} {k : Keyword} (hk : t.keyword? = some k)
    (hmem : k ∈ [.NOT, .IN, .BETWEEN, .LIKE, .ILIKE, .SIMILAR, .REGEXP, .RLIKE])
    (hpos : 0 < strength (t :: ts)) : strength (t :: ts) = likeStrength := by
  cases t with
  | word w =>
      have hword : w.keyword = some k := hk
      simp only [List.mem_cons, List.not_mem_nil, or_false] at hmem
      obtain rfl | rfl | rfl | rfl | rfl | rfl | rfl | rfl := hmem
      · simp only [strength, hword] at hpos ⊢
        split at hpos
        all_goals first
          | rfl
          | exact absurd hpos (Nat.lt_irrefl 0)
      all_goals simp only [strength, hword]
  | _ => cases hk

theorem extended_derives (hg : g.Derives R) (hpos : 0 < strength ts)
    (h : extended g e (strength ts) ts = .ok (x, rest)) (hx : x.isPlain = true) :
    Extends R e ts x rest := by
  obtain ⟨op, mid, hop, hmid⟩ := bind_eq_ok h
  cases op with
  | some op =>
      obtain ⟨r, rfl, hplain, hr⟩ := rightSide_derives hg hmid hx
      obtain ⟨t, rfl, ht⟩ := infix_of_binaryOp hop hplain
      exact .binary ht hplain hr
  | none =>
      obtain rfl := stays_of_binaryOp hop
      obtain ⟨k, mid', hpeek, hread⟩ := bind_eq_ok hmid
      obtain ⟨hk, rfl⟩ := peekKeyword?_eq_ok hpeek
      cases mid' with
      | nil => exact absurd hpos (Nat.lt_irrefl 0)
      | cons t ts =>
          have hkeyword : t.keyword? = k := hk.symm
          split at hread
          · obtain ⟨t', mid, hnext, htest⟩ := bind_eq_ok hread
            obtain ⟨rfl, rfl⟩ := List.cons.inj (next_eq_ok hnext)
            have hs : strength (t :: ts) = isStrength := by
              cases t with
              | word w =>
                  have hword : w.keyword = some .IS := hkeyword
                  simp only [strength, hword]
              | _ => cases hkeyword
            have hskip : Skips (t :: ts) ts := ⟨[.IS], by rw [afterKeywords, if_pos hkeyword]; rfl⟩
            exact isTest_derives hg hs hskip htest hx
          · obtain ⟨u, mid, hwords, hzone⟩ := bind_eq_ok hread
            have hafter := keywords_eq_ok hwords
            obtain ⟨zone, last, hrun, hlast⟩ := bind_eq_ok hzone
            obtain ⟨rfl, rfl⟩ := pure_eq_ok hlast
            have hs : strength (t :: ts) = zoneStrength := by
              cases t with
              | word w =>
                  have hword : w.keyword = some .AT := hkeyword
                  rw [afterKeywords, if_pos hkeyword] at hafter
                  simp only [strength, hword, hafter, Option.isSome_some, if_true]
              | _ => cases hkeyword
            rw [hs] at hrun
            exact .atTimeZone hs hafter (hg.plain hrun ((isPlain_first hx).2 _ (by simp)))
          case h_11 => cases hread
          case h_12 =>
            obtain ⟨cast, mid, -, hcast⟩ := bind_eq_ok hread
            refine not_plain_of_run hcast (.ite (fun _ => .step fun type => .pure rfl) fun _ => ?_) hx
            exact .step fun bang => .ite (fun _ => .pure rfl) fun _ => .fail
          all_goals
            exact rangeTest_derives hg (strength_rangeTest hkeyword (by simp) hpos) hread hx

/-- What an operand goes on to with plain operators, it goes on to by the rules. -/
theorem extendedLoop_derives (hg : g.Derives R) {least fuel : Nat}
    (h : extendedLoop g least fuel e ts = .ok (x, rest)) (hx : x.isPlain = true) :
    Goes R least e ts x rest ∧ e.isPlain = true := by
  induction fuel generalizing e ts with
  | zero => cases h
  | succ fuel ih =>
      simp only [extendedLoop] at h
      split at h
      · next hstop =>
        obtain ⟨rfl, rfl⟩ := Prod.mk.inj (Except.ok.inj h)
        exact ⟨.stop ((edge_le _ _).2 hstop), hx⟩
      · next hgoes =>
        obtain ⟨e', mid, hextended, hloop⟩ := bind_eq_ok h
        obtain ⟨hmore, he'⟩ := ih hloop
        have hedge : least < edge ts := Nat.not_le.1 fun hle => hgoes ((edge_le _ _).1 hle)
        have hpos : 0 < strength ts := by
          unfold edge at hedge
          split at hedge
          · exact absurd hedge (Nat.not_lt_zero _)
          · exact Nat.zero_lt_of_lt hedge
        have hextends := extended_derives hg hpos hextended he'
        refine ⟨.step hedge hextends hmore, ?_⟩
        cases hextends <;> exact (isPlain_first he').1

/-- Behind a period, an operand is not gone on with. -/
theorem extendedLoop_period {fuel : Nat}
    (h : extendedLoop g periodStrength fuel e ts = .ok (x, rest)) : x = e := by
  cases fuel with
  | zero => cases h
  | succ fuel =>
      rw [extendedLoop_stops e (edge_le_period ts)] at h
      exact (Prod.mk.inj (Except.ok.inj h)).1.symm

end

/-- What the grammar reads on a level is derived on that level, if it is plain. -/
theorem grammar_derives (level : Nat) : (grammar level).Derives (Derives level) := by
  induction level with
  | zero => exact ⟨nofun, nofun⟩
  | succ level ih =>
      have haccessed {least : Nat} {ts rest : List Token} {x : Expr}
          (h : exprAbove (grammar level) least ts = .ok (x, rest)) :
          ∃ e mid, Linked e ∧ (e.isPlain = true →
            Starts (Derives level) ts e mid ∧ mid.head? ≠ some (.symbol .period)) ∧
              extendedLoop (grammar level) least (mid.length + 1) e mid = .ok (x, rest) := by
        obtain ⟨root, mid, hroot, hmid⟩ := bind_eq_ok h
        obtain ⟨e, last, he, hloop⟩ := bind_eq_ok hmid
        obtain ⟨hlinked, hstarts⟩ := accessed_derives ih (operandWith_opens ih hroot) he
        exact ⟨e, last, hlinked, hstarts, hloop⟩
      constructor
      · intro least ts x rest h hx
        obtain ⟨e, mid, -, hstarts, hloop⟩ := haccessed h
        obtain ⟨hgoes, he⟩ := extendedLoop_derives ih hloop hx
        obtain ⟨hoperand, hperiod⟩ := hstarts he
        exact ⟨e, mid, hoperand, hperiod, hgoes⟩
      · intro ts x rest h
        obtain ⟨e, mid, hlinked, -, hloop⟩ := haccessed h
        obtain rfl := extendedLoop_period hloop
        exact hlinked

end GeoLayers.Sql.Parser
