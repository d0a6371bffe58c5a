import GeoLayers.Proofs.Sql.Reread.Replay

/-!
What a plain operand goes on with is read again behind the qualified operand: first a single
operator with its right side, then all of them up to the end. With that a plain condition is read
again on every level that is deep enough for it.
-/

namespace GeoLayers.Sql

open Where (qualify)

namespace Parser

/-- A period binds more strongly than any other operator, so what binds as given is no period. -/
theorem edge_eq_strength {ts : List Token} (h : strength ts ≠ periodStrength) :
    edge ts = strength ts := by
  unfold edge
  split
  case isTrue hperiod =>
    obtain ⟨more, rfl⟩ := List.head?_eq_some_iff.1 hperiod
    exact absurd rfl h
  case isFalse => rfl

theorem edge_eq_of_strength {ts ts' : List Token} {n : Nat} (h : strength ts = n)
    (h' : strength ts' = n) (hn : n ≠ periodStrength) : edge ts' = edge ts := by
  subst h
  rw [edge_eq_strength hn, edge_eq_strength (h' ▸ hn), h']

theorem edge_infix {t : Token} {op : BinaryOp} (h : infix? t = some op) (ts : List Token) :
    edge (t :: ts) = strength (t :: ts) := by
  unfold edge
  split
  case isTrue hperiod =>
    obtain rfl := Option.some.inj hperiod
    cases h
  case isFalse => rfl

/-- A word for a conjunction binds as the operator does. -/
theorem edge_and {ts rest : List Token} (h : afterKeywords [.AND] ts = some rest) :
    edge ts = andStrength := by
  cases ts with
  | nil => cases h
  | cons t ts =>
      rw [afterKeywords] at h
      split at h
      case isFalse => cases h
      case isTrue hk =>
        cases t with
        | word w =>
            have hw : w.keyword = some .AND := hk
            have hs : strength (.word w :: ts) = andStrength := by simp only [strength, hw]
            rw [edge_eq_strength (by rw [hs]; decide), hs]
        | _ => cases hk

section

variable {g : Grammar} {ts : List Token} (e : Expr) (n : Nat) (negated : Bool)

theorem extended_at : extended g e n (keywordTokens [.AT, .TIME, .ZONE] ++ ts) =
    (g.expr n >>= fun zone => pure (.form .atTimeZone [e, zone])) ts := rfl

theorem extended_range {k : Keyword}
    (hk : k ∈ [.IN, .BETWEEN, .LIKE, .ILIKE, .SIMILAR, .REGEXP, .RLIKE]) (ks : List Keyword) :
    extended g e n (keywordTokens (notKeyword negated ++ k :: ks) ++ ts) =
      rangeTest g e (keywordTokens (notKeyword negated ++ k :: ks) ++ ts) := by
  simp only [List.mem_cons, List.not_mem_nil, or_false] at hk
  cases negated with
  | true => rfl
  | false => obtain rfl | rfl | rfl | rfl | rfl | rfl | rfl := hk <;> rfl

theorem strength_range {k : Keyword}
    (hk : k ∈ [.IN, .BETWEEN, .LIKE, .ILIKE, .SIMILAR, .REGEXP, .RLIKE]) (ks : List Keyword) :
    strength (keywordTokens (notKeyword negated ++ k :: ks) ++ ts) = likeStrength := by
  simp only [List.mem_cons, List.not_mem_nil, or_false] at hk
  cases negated <;> obtain rfl | rfl | rfl | rfl | rfl | rfl | rfl := hk <;> rfl

theorem ends_range {k : Keyword}
    (hk : k ∈ [.IN, .BETWEEN, .LIKE, .ILIKE, .SIMILAR, .REGEXP, .RLIKE]) (ks : List Keyword) :
    ∃ t more, keywordTokens (notKeyword negated ++ k :: ks) = t :: more ∧ t.ends = true := by
  simp only [List.mem_cons, List.not_mem_nil, or_false] at hk
  cases negated with
  | true => exact ⟨_, _, rfl, rfl⟩
  | false => obtain rfl | rfl | rfl | rfl | rfl | rfl | rfl := hk <;> exact ⟨_, _, rfl, rfl⟩

end

/-- What an operator with its right side is read as again: `suffix` is written for it behind the
qualified operand, binds as the tokens `ts` did, and is taken up where what follows binds no more
strongly than `rest`. -/
structure Resumed (e x : Expr) (ts rest suffix : List Token) : Prop where
  tokens : (qualify x).tokens = (qualify e).tokens ++ suffix
  ends : ∃ t more, suffix = t :: more ∧ t.ends = true
  edge : ∀ more, edge (suffix ++ more) = Parser.edge ts
  run : ∀ {level more}, (qualify x).depth ≤ level + 1 → Trails more → Parser.edge more ≤ Parser.edge rest →
    extended (grammar level) (qualify e) (strength (suffix ++ more)) (suffix ++ more) =
      .ok (qualify x, more)

section

variable {R : Reading} (hR : R.Replays) {e x : Expr} {ts rest : List Token}

include hR

theorem binary_resumed {t : Token} {op : BinaryOp} {r : Expr} (ht : infix? t = some op)
    (h : R (strength (t :: ts)) ts r rest) :
    Resumed e (.form (.binary op) [e, r]) (t :: ts) rest (op.token :: (qualify r).tokens) := by
  obtain ⟨hread, hends, hstrength⟩ := infix_token ht
  constructor
  · rw [qualify_form]
    exact Expr.tokens_binary _ _ op
  · exact ⟨_, _, rfl, hends⟩
  · intro more
    rw [List.cons_append, edge_infix hread, edge_infix ht]
    exact hstrength _ _
  · intro level more hdepth hmore hedge
    rw [qualify_form] at hdepth ⊢
    have hr := ((Expr.depth_extended rfl _ _).1 hdepth).2 (qualify r) (by simp)
    have hrun := hR.run h hr hmore hedge
    rw [List.cons_append, hstrength _ ts]
    exact (bind_run (binaryOp?_run hread _) _).trans
      (rightSide_run _ op (startsOpen_qualify (hR.plain h) _) hrun)

omit hR in
theorem test_resumed (hs : strength ts = isStrength) (negated : Bool) (what : Test) :
    Resumed e (.form (.test negated what) [e]) ts rest
      (keywordTokens (.IS :: (notKeyword negated ++ what.keywords))) := by
  constructor
  · rw [qualify_form]
    exact Expr.tokens_test negated _ what
  · exact ⟨_, _, rfl, rfl⟩
  · intro more
    exact edge_eq_of_strength hs rfl (by decide)
  · intro level more _ _ _
    rw [qualify_form]
    exact isTest_run _ negated what

theorem distinctFrom_resumed (hs : strength ts = isStrength) (negated : Bool)
    {mid : List Token} {r : Expr} (h : R 0 mid r rest) :
    Resumed e (.form (.distinctFrom negated) [e, r]) ts rest
      (keywordTokens (.IS :: (notKeyword negated ++ [.DISTINCT, .FROM])) ++ (qualify r).tokens) := by
  constructor
  · rw [qualify_form]
    exact Expr.tokens_distinctFrom negated _ _
  · exact ⟨_, _, rfl, rfl⟩
  · intro more
    exact edge_eq_of_strength hs rfl (by decide)
  · intro level more hdepth hmore hedge
    rw [qualify_form] at hdepth ⊢
    have hr := ((Expr.depth_extended rfl _ _).1 hdepth).2 (qualify r) (by simp)
    have hrun := hR.run h hr hmore hedge
    rw [List.append_assoc]
    exact isTest_distinct _ negated hrun

omit hR in
/-- What starts with `NOT` and a keyword of a range test, or with the keyword alone. -/
theorem range_resumed {k : Keyword} {ks : List Keyword} {after : List Token} {negated : Bool}
    (hk : k ∈ [.IN, .BETWEEN, .LIKE, .ILIKE, .SIMILAR, .REGEXP, .RLIKE])
    (hs : strength ts = likeStrength)
    (htokens : (qualify x).tokens =
      (qualify e).tokens ++ (keywordTokens (notKeyword negated ++ k :: ks) ++ after))
    (hrun : ∀ {level more}, (qualify x).depth ≤ level + 1 → Trails more → edge more ≤ edge rest →
      rangeTest (grammar level) (qualify e)
        (keywordTokens (notKeyword negated ++ k :: ks) ++ (after ++ more)) = .ok (qualify x, more)) :
    Resumed e x ts rest (keywordTokens (notKeyword negated ++ k :: ks) ++ after) := by
  constructor
  · exact htokens
  · obtain ⟨t, more, hword, hends⟩ := ends_range negated hk ks
    exact ⟨t, more ++ after, by rw [hword]; rfl, hends⟩
  · intro more
    rw [List.append_assoc]
    exact edge_eq_of_strength hs (strength_range negated hk ks) (by decide)
  · intro level more hdepth hmore hedge
    rw [List.append_assoc, extended_range _ _ negated hk]
    exact hrun hdepth hmore hedge

theorem inList_resumed (hs : strength ts = likeStrength) (negated : Bool) {mid : List Token}
    {item : Expr} {items : List Expr} (h : Items R mid (item :: items) (.symbol .rParen :: rest)) :
    Resumed e (.form (.inList negated) (e :: item :: items)) ts rest
      (keywordTokens (notKeyword negated ++ [.IN]) ++ .symbol .lParen ::
        (commaTokens (((item :: items).map qualify).map Expr.tokens) ++ [.symbol .rParen])) := by
  apply range_resumed (by simp) hs
  · rw [qualify_form]
    exact Expr.tokens_inList negated _ _
  · intro level more hdepth hmore _
    rw [qualify_form] at hdepth ⊢
    have hitems := List.forall_mem_map.1 ((Expr.depth_extended rfl _ _).1 hdepth).2
    have hrun := commaSeparated_run hR h hitems hmore.square
    have hopen := startsOpen_items (List.cons_ne_nil _ _) (items_plain hR h)
      (.symbol .rParen :: more)
    rw [List.cons_append, List.append_assoc]
    exact rangeTest_inList _ negated hopen hrun

theorem between_resumed (hs : strength ts = likeStrength) (negated : Bool)
    {mid mid' last : List Token} {low high : Expr} (hlow : R likeStrength mid low mid')
    (hand : afterKeywords [.AND] mid' = some last) (hhigh : R likeStrength last high rest) :
    Resumed e (.form (.between negated) [e, low, high]) ts rest
      (keywordTokens (notKeyword negated ++ [.BETWEEN]) ++
        ((qualify low).tokens ++ Keyword.AND.token :: (qualify high).tokens)) := by
  apply range_resumed (by simp) hs
  · rw [qualify_form]
    exact Expr.tokens_between negated _ _ _
  · intro level more hdepth hmore hedge
    rw [qualify_form] at hdepth ⊢
    have hdepths := ((Expr.depth_extended rfl _ _).1 hdepth).2
    have hafter : Trails (Keyword.AND.token :: ((qualify high).tokens ++ more)) :=
      trails_cons rfl (square_append (calm_qualify (hR.plain hhigh)) hmore.square)
    have handEdge : edge (Keyword.AND.token :: ((qualify high).tokens ++ more)) ≤ edge mid' := by
      rw [edge_and hand]
      exact Nat.le_of_eq (edge_and (by rfl))
    have hfirst := hR.run hlow (hdepths _ (by simp)) hafter handEdge
    have hsecond := hR.run hhigh (hdepths _ (by simp)) hmore hedge
    rw [List.append_assoc, List.cons_append]
    exact rangeTest_between _ negated hfirst hsecond

theorem like_resumed (hs : strength ts = likeStrength) (kind : LikeKind) (negated any : Bool)
    (hany : kind = .similar → any = false) {mid : List Token} {pattern : Expr}
    (h : R likeStrength mid pattern rest) :
    Resumed e (.form (.like kind negated any none) [e, pattern]) ts rest
      (keywordTokens (notKeyword negated ++ kind.keywords ++ if any then [.ANY] else []) ++
        (qualify pattern).tokens) := by
  have htokens := Expr.tokens_like negated (qualify e) kind any (qualify pattern)
  have hrun {level : Nat} {more : List Token}
      (hdepth : (qualify (.form (.like kind negated any none) [e, pattern])).depth ≤ level + 1)
      (hmore : Trails more) (hedge : edge more ≤ edge rest) :
      rangeTest (grammar level) (qualify e)
        (keywordTokens (notKeyword negated ++ kind.keywords ++ if any then [.ANY] else []) ++
          ((qualify pattern).tokens ++ more)) =
        .ok (qualify (.form (.like kind negated any none) [e, pattern]), more) := by
    rw [qualify_form] at hdepth ⊢
    have hpattern := ((Expr.depth_extended rfl _ _).1 hdepth).2 (qualify pattern) (by simp)
    exact rangeTest_like _ negated kind any hany (startsOpen_qualify (hR.plain h) _)
      (hR.run h hpattern hmore hedge) hmore
  rw [List.append_assoc] at htokens hrun ⊢
  cases kind <;> exact range_resumed (by simp) hs (by rw [qualify_form]; exact htokens) hrun

theorem regexp_resumed (hs : strength ts = likeStrength) (negated rlike : Bool) {mid : List Token}
    {pattern : Expr} (h : R likeStrength mid pattern rest) :
    Resumed e (.form (.regexp negated rlike) [e, pattern]) ts rest
      (keywordTokens (notKeyword negated ++ [if rlike then .RLIKE else .REGEXP]) ++
        (qualify pattern).tokens) := by
  apply range_resumed (by cases rlike <;> simp) hs
  · rw [qualify_form]
    exact Expr.tokens_regexp negated _ rlike _
  · intro level more hdepth hmore hedge
    rw [qualify_form] at hdepth ⊢
    have hpattern := ((Expr.depth_extended rfl _ _).1 hdepth).2 (qualify pattern) (by simp)
    exact rangeTest_regexp _ negated rlike (startsOpen_qualify (hR.plain h) _)
      (hR.run h hpattern hmore hedge)

theorem atTimeZone_resumed (hs : strength ts = zoneStrength) {mid : List Token} {zone : Expr}
    (h : R zoneStrength mid zone rest) :
    Resumed e (.form .atTimeZone [e, zone]) ts rest
      (keywordTokens [.AT, .TIME, .ZONE] ++ (qualify zone).tokens) := by
  constructor
  · rw [qualify_form]
    exact Expr.tokens_atTimeZone _ _
  · exact ⟨_, _, rfl, rfl⟩
  · intro more
    exact edge_eq_of_strength hs rfl (by decide)
  · intro level more hdepth hmore hedge
    rw [qualify_form] at hdepth ⊢
    have hzone := ((Expr.depth_extended rfl _ _).1 hdepth).2 (qualify zone) (by simp)
    have hrun := hR.run h hzone hmore hedge
    rw [List.append_assoc, extended_at]
    exact bind_run hrun _

/-- Whatever an operand goes on with is read again behind the qualified operand. -/
theorem extends_resumed (h : Extends R e ts x rest) : ∃ suffix, Resumed e x ts rest suffix := by
  cases h with
  | binary ht hop h => exact ⟨_, binary_resumed hR ht h⟩
  | test hs hks negated what => exact ⟨_, test_resumed hs negated what⟩
  | distinctFrom hs hks negated h => exact ⟨_, distinctFrom_resumed hR hs negated h⟩
  | inList hs hks negated h => exact ⟨_, inList_resumed hR hs negated h⟩
  | between hs hks negated hlow hand hhigh =>
      exact ⟨_, between_resumed hR hs negated hlow hand hhigh⟩
  | like hs hks kind negated any hany h => exact ⟨_, like_resumed hR hs kind negated any hany h⟩
  | regexp hs hks negated rlike h => exact ⟨_, regexp_resumed hR hs negated rlike h⟩
  | atTimeZone hs hks h => exact ⟨_, atTimeZone_resumed hR hs h⟩

theorem goes_plain {least : Nat} (h : Goes R least e ts x rest) (he : e.isPlain = true) :
    x.isPlain = true := by
  induction h with
  | stop h => exact he
  | step hleast h hmore ih => exact ih (extends_plain hR h he)

omit hR in
/-- An operand is nested no deeper than what it goes on to. -/
theorem extends_depth (h : Extends R e ts x rest) {level : Nat}
    (hdepth : (qualify x).depth ≤ level + 1) : (qualify e).depth ≤ level + 1 := by
  cases h <;>
  · rw [qualify_form] at hdepth
    exact ((Expr.depth_extended rfl _ _).1 hdepth).1

/-- All that an operand goes on with is read again behind the qualified operand. The induction is on
the operators: each leaves the next ones the tokens that are written for them. -/
theorem goes_run {least : Nat} (h : Goes R least e ts x rest) (he : e.isPlain = true) :
    ∃ suffix, (qualify x).tokens = (qualify e).tokens ++ suffix ∧
      ∀ {level more}, (qualify x).depth ≤ level + 1 → Trails more → edge more ≤ edge rest →
        (qualify e).depth ≤ level + 1 ∧ Trails (suffix ++ more) ∧
          edge (suffix ++ more) ≤ edge ts ∧ ∀ {fuel}, suffix.length ≤ fuel →
            extendedLoop (grammar level) least (fuel + 1) (qualify e) (suffix ++ more) =
              .ok (qualify x, more) := by
  induction h with
  | @stop ts e h =>
      refine ⟨[], (List.append_nil _).symm, fun hdepth hmore hedge => ?_⟩
      exact ⟨hdepth, hmore, hedge, fun _ => extendedLoop_stops _ (Nat.le_trans hedge h) _⟩
  | @step ts mid rest e e' x hleast h hmore ih =>
      have he' := extends_plain hR h he
      obtain ⟨suffix, hsuffix⟩ := extends_resumed hR h
      obtain ⟨suffix', htokens, hrun⟩ := ih he'
      refine ⟨suffix ++ suffix', ?_, fun {level more} hdepth htrails hedge => ?_⟩
      · rw [htokens, hsuffix.tokens, List.append_assoc]
      obtain ⟨hdepth', htrails', hedge', hloop⟩ := hrun hdepth htrails hedge
      obtain ⟨t, first, hfirst, hends⟩ := hsuffix.ends
      have hsame : edge (suffix ++ (suffix' ++ more)) = edge ts := hsuffix.edge _
      have hcalm : suffix.all Token.isCalm = true := by
        have hall := calm_qualify he'
        rw [hsuffix.tokens, List.all_append, Bool.and_eq_true] at hall
        exact hall.2
      rw [List.append_assoc]
      refine ⟨extends_depth h hdepth', ?_, Nat.le_of_eq hsame, fun {fuel} hfuel => ?_⟩
      · have hsquare := square_append hcalm htrails'.square
        rw [hfirst, List.cons_append] at hsquare ⊢
        exact trails_cons hends (List.not_mem_of_not_mem_cons hsquare)
      · have hgoes : ¬(strength (suffix ++ (suffix' ++ more)) ≤ least ||
            (suffix ++ (suffix' ++ more)).head? == some (.symbol .period)) = true := by
          rw [← edge_le, hsame]
          exact Nat.not_le.2 hleast
        cases fuel with
        | zero => simp [hfirst] at hfuel
        | succ fuel =>
            have hextended := hsuffix.run hdepth' htrails' hedge'
            have hlength : suffix'.length ≤ fuel := by
              rw [hfirst, List.length_append, List.length_cons] at hfuel
              omega
            rw [extendedLoop]
            dsimp only
            rw [if_neg hgoes, bind_run hextended]
            exact hloop hlength

end

theorem depth_qualify_pos {e : Expr} (h : e.isPlain = true) : 0 < (qualify e).depth := by
  cases e with
  | column name => exact Nat.zero_lt_two
  | path parts =>
      rw [qualify_path, depth_quoted, List.length_map]
      cases parts with
      | nil => cases h
      | cons name names => exact Nat.succ_pos _
  | form head operands =>
      rw [qualify_form, Expr.depth]
      unfold Form.depth
      split <;> omega

/-- What is read by the rules is read again after it is qualified, on all levels that are enough for
it. The induction is on the levels of the rules. -/
theorem derives_replays (level : Nat) : (Derives level).Replays := by
  induction level with
  | zero => exact ⟨nofun, nofun⟩
  | succ level ih =>
      constructor
      · rintro least ts x rest ⟨e, mid, hstarts, -, hgoes⟩
        exact goes_plain ih hgoes (starts_plain ih hstarts)
      · rintro least ts x rest ⟨e, mid, hstarts, -, hgoes⟩ level' rest' hdepth hrest hedge
        obtain ⟨suffix, htokens, hrun⟩ := goes_run ih hgoes (starts_plain ih hstarts)
        cases level' with
        | zero => exact absurd hdepth (Nat.not_le.2 (depth_qualify_pos (goes_plain ih hgoes (starts_plain ih hstarts))))
        | succ level' =>
            obtain ⟨hdepth', htrails, hedge', hloop⟩ := hrun hdepth hrest hedge
            have hoperand := starts_run ih hstarts hdepth' htrails hedge'
            rw [htokens, List.append_assoc, expr_run _ hoperand]
            exact hloop (by simp)

end Parser

end GeoLayers.Sql
