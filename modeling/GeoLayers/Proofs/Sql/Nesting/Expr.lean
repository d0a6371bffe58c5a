import GeoLayers.Proofs.Sql.Nesting.Basic

/-!
Reading an expression puts queries only where they may stand. Each function of the grammar of
expressions has one lemma, under the assumption that the grammar of the level below places queries
so; the functions that read a query themselves are `existsExpr`, `arrayQueryExpr`, `bracketOperand`
and `inExpr`.
-/

namespace GeoLayers.Sql.Parser

open Sql.Expr (Proper Inner)

section Calls

variable {g : Grammar} (hg : g.Places)

include hg

theorem argValue_places : Yields (argValue g) fun r => AllProper r.2 := by
  refine .step fun starred => ?_
  split
  · exact .pure (by simp)
  · refine .bind (hg.expr 0) fun e he => ?_
    split
    · exact .pure (by simp)
    · exact .pure (by simpa using he)

theorem argument_places : Yields (argument g) fun r => AllProper r.2 := by
  intro ts x rest h
  simp only [argument] at h
  split at h
  · cases h
  · next found rest' hrun =>
    obtain ⟨rfl, rfl⟩ := Prod.mk.inj (Except.ok.inj h)
    refine Yields.attempt (P := fun r => AllProper r.2) ?_ ts _ _ hrun _ rfl
    refine .bind (hg.expr 0) fun name hname => .step fun operator => ?_
    split
    · exact .bind (argValue_places hg) fun value hvalue => .pure (by simpa using ⟨hname, hvalue⟩)
    · exact .fail
  · split at h
    · cases h
    · next value operands rest' hrun =>
      obtain ⟨rfl, rfl⟩ := Prod.mk.inj (Except.ok.inj h)
      exact argValue_places hg ts _ _ hrun

theorem overflow_places : Yields (overflow? g) fun found => ∀ r ∈ found, AllProper r.2 := by
  refine .step fun there => .ite (fun _ => ?_) fun _ => .pure (by simp)
  refine .step fun error => .ite (fun _ => .pure (by simp)) fun _ => .step fun _ => .step fun t => ?_
  extract_lets counted
  have hcounted (filler : Option Expr) (hfiller : ∀ e ∈ filler, Proper e) :
      Yields (counted filler) fun found => ∀ r ∈ found, AllProper r.2 := by
    refine .step fun withCount => ?_
    extract_lets ended
    have hended : Yields (ended ()) fun found => ∀ r ∈ found, AllProper r.2 :=
      .step fun _ => .pure (by simpa using hfiller)
    exact .ite (fun _ => .step fun _ => hended) fun _ => hended
  split
  · exact .ite (fun _ => hcounted none (by simp)) fun _ => .bind .fail hcounted
  · exact .bind .fail hcounted
  · exact .bind .fail hcounted
  · exact .bind (.map (hg.expr 0) (by simp)) hcounted
  · exact .bind .fail hcounted

theorem argList_places : Yields (argList g) fun r => AllProper r.2 := by
  refine .step fun first => .step fun closed => .ite (fun _ => .pure (by simp)) fun _ => ?_
  refine .step fun all => .step fun distinct => ?_
  extract_lets treatment listed
  have hlisted : Yields (listed ()) fun r => AllProper r.2 := by
    refine .bind (.commaSeparated (argument_places hg)) fun args hargs => ?_
    refine .bind (overflow_places hg) fun overflow hoverflow => .step fun last => .step fun _ => ?_
    refine .pure (allProper_append.2 ⟨fun e he => ?_, ?_⟩)
    · obtain ⟨arg, harg, hmem⟩ := List.mem_flatMap.1 he
      exact hargs arg harg e hmem
    · cases overflow with
      | none => simp
      | some found => exact hoverflow found rfl
  exact .ite (fun _ => .step fun _ => hlisted) fun _ => hlisted

theorem frameBound_places {interval : Parser Expr} (hinterval : Yields interval Proper) :
    Yields (frameBound g interval) fun r => AllProper r.2 := by
  refine .step fun current => .ite (fun _ => .pure (by simp)) fun _ => ?_
  refine .step fun unbounded => .ite (fun _ => .step fun direction => .pure (by simp)) fun _ => ?_
  refine .step fun t => ?_
  extract_lets bounded
  have hbounded (e : Expr) (he : Proper e) : Yields (bounded e) fun r => AllProper r.2 :=
    .step fun direction => .pure (by simpa using he)
  split
  · exact .bind hinterval hbounded
  · exact .bind (hg.expr 0) hbounded

theorem frame_places {interval : Parser Expr} (hinterval : Yields interval Proper) :
    Yields (frame g interval) fun r => AllProper r.2 := by
  refine .step fun units => ?_
  extract_lets framed
  have hframed (units : FrameUnits) : Yields (framed units) fun r => AllProper r.2 := by
    refine .step fun between => .ite (fun _ => ?_) fun _ => ?_
    · refine .bind (frameBound_places hg hinterval) fun first hfirst => .step fun _ => ?_
      refine .bind (frameBound_places hg hinterval) fun last hlast => .pure ?_
      exact allProper_append.2 ⟨hfirst, hlast⟩
    · exact .bind (frameBound_places hg hinterval) fun first hfirst => .pure hfirst
  split
  · exact .step hframed
  · exact .step hframed
  · exact .step hframed
  · exact .step hframed

theorem window_places {interval : Parser Expr} (hinterval : Yields interval Proper) :
    Yields (window g interval) fun r => AllProper r.2 := by
  refine .step fun bracket => .ite (fun _ => ?_) fun _ => .step fun name => .pure (by simp)
  refine .step fun t => ?_
  extract_lets specified
  have hspecified (name : Option Ident) : Yields (specified name) fun r => AllProper r.2 := by
    refine .step fun partitioned => ?_
    extract_lets ordered
    have hordered (partitions : List Expr) (hpartitions : ∀ e ∈ partitions, Proper e) :
        Yields (ordered partitions) fun r => AllProper r.2 := by
      refine .step fun closed => .ite (fun _ => .pure hpartitions) fun _ => ?_
      refine .bind (frame_places hg hinterval) fun found hfound => .step fun _ => .pure ?_
      exact allProper_append.2 ⟨hpartitions, hfound⟩
    refine .ite (fun _ => .bind (.commaSeparated (hg.expr 0)) hordered) fun _ => ?_
    exact .bind (.pure (by simp)) hordered
  split
  · exact .ite (fun _ => .step hspecified) fun _ => .step hspecified
  · exact .step hspecified

theorem filter_places : Yields (filter? g) fun found => ∀ e ∈ found, Proper e := by
  have hnone : Yields (pure none : Parser (Option Expr)) fun found => ∀ e ∈ found, Proper e :=
    .pure (by simp)
  refine .step fun marked => .ite (fun _ => .step fun bracket => .ite (fun _ => ?_) fun _ => hnone)
    fun _ => hnone
  refine .step fun there => .ite (fun _ => ?_) fun _ => hnone
  exact .bind (hg.expr 0) fun e he => .step fun _ => .pure (by simpa using he)

theorem functionCall_places {interval : Parser Expr} (hinterval : Yields interval Proper)
    (name : List Ident) : Yields (functionCall g interval name) fun r => AllProper r.2 := by
  refine .step fun _ => .bind (argList_places hg) fun list hlist => .step fun within => ?_
  extract_lets called
  have hcalled : Yields (called ()) fun r => AllProper r.2 := by
    refine .bind (filter_places hg) fun condition hcondition => .step fun nulls => ?_
    extract_lets ended
    have hended (nulls : Option NullTreatment) : Yields (ended nulls) fun r => AllProper r.2 := by
      refine .bind (.whenever (window_places hg hinterval)) fun frame hframe => .pure ?_
      refine allProper_append.2 ⟨allProper_append.2 ⟨hlist, by simpa using hcondition⟩, ?_⟩
      cases frame with
      | none => simp
      | some found => exact hframe found rfl
    split
    · exact .step fun _ => .step hended
    · exact .step fun _ => .step hended
    · exact .step hended
  exact .ite (fun _ => .step fun _ => hcalled) fun _ => hcalled

theorem functionExpr_places {interval : Parser Expr} (hinterval : Yields interval Proper)
    (name : List Ident) : Yields (functionExpr g interval name) Proper :=
  .bind (functionCall_places hg hinterval name) fun _ h => .pure (proper_form rfl rfl h)

end Calls

section Special

variable {g : Grammar} (hg : g.Places)

include hg

theorem caseBranches_places (fuel : Nat) : Yields (caseBranches g fuel) AllProper := by
  induction fuel with
  | zero => exact .fail
  | succ fuel ih =>
      refine .bind (hg.expr 0) fun condition hcondition => .step fun _ => ?_
      refine .bind (hg.expr 0) fun result hresult => .step fun more => .ite (fun _ => ?_) fun _ => ?_
      · exact .bind ih fun es hes => .pure (by simp [hcondition, hresult, hes])
      · exact .pure (by simp [hcondition, hresult])

theorem caseExpr_places : Yields (caseExpr g) Proper := by
  refine .step fun bare => ?_
  extract_lets branched
  have hbranched (operand : Option Expr) (hoperand : ∀ e ∈ operand, Proper e) :
      Yields (branched operand) Proper := by
    refine .bind (.atTokens (q := fun ts => caseBranches g (ts.length + 1))
      fun ts => caseBranches_places hg _) fun branches hbranches => ?_
    refine .bind (.whenever (hg.expr 0)) fun otherwise hotherwise => .step fun _ => .pure ?_
    refine proper_form rfl rfl (allProper_append.2 ⟨allProper_append.2 ⟨?_, hbranches⟩, ?_⟩)
    · simpa using hoperand
    · simpa using hotherwise
  refine .ite (fun _ => .bind (.pure (by simp)) hbranched) fun _ => ?_
  exact .bind (hg.expr 0) fun e he => .step fun _ => .bind (.pure (by simpa using he)) hbranched

theorem convertExpr_places : Yields (convertExpr g) Proper := by
  refine .bracketed (.bind (hg.expr 0) fun e he => .step fun marked => .ite (fun _ => ?_) fun _ => ?_)
  · exact .step fun charset => .pure (proper_single rfl rfl he)
  · refine .step fun _ => .step fun type => .step fun marked => ?_
    exact .ite (fun _ => .step fun set => .ite (fun _ => .step fun _ => .pure (proper_single rfl rfl he))
      fun _ => .step fun _ => .pure (proper_single rfl rfl he))
      fun _ => .step fun _ => .pure (proper_single rfl rfl he)

theorem castExpr_places (kind : CastKind) : Yields (castExpr g kind) Proper :=
  .bracketed (.bind (hg.expr 0) fun _ he => .step fun _ => .step fun _ => .step fun _ =>
    .pure (proper_single rfl rfl he))

theorem existsExpr_places (negated : Bool) : Yields (existsExpr g negated) Proper :=
  .bracketed (.bind hg.query fun _ hq => .pure (.takes [] rfl (by simp) hq))

theorem extractExpr_places : Yields (extractExpr g) Proper :=
  .bracketed (.step fun _ => .step fun _ => .bind (hg.expr 0) fun _ he =>
    .pure (proper_single rfl rfl he))

theorem roundExpr_places (up : Bool) : Yields (roundExpr g up) Proper := by
  refine .bracketed (.bind (hg.expr 0) fun e he => .step fun marked => .ite (fun _ => ?_) fun _ => ?_)
  · exact .step fun field => .pure (proper_single rfl rfl he)
  · refine .step fun comma => .ite (fun _ => .step fun scale => ?_) fun _ => ?_
    · split
      · exact .pure (proper_single rfl rfl he)
      · exact .fail
    · exact .pure (proper_single rfl rfl he)

theorem positionExpr_places {interval : Parser Expr} (hinterval : Yields interval Proper)
    (name : Ident) : Yields (positionExpr g interval name) Proper := by
  have hfound : Yields (bracketed (do
      let e ← g.expr likeStrength
      keyword .IN
      let whole ← g.expr 0
      pure (Expr.form .position [e, whole]))) Proper :=
    .bracketed (.bind (hg.expr _) fun e he => .step fun _ => .bind (hg.expr 0) fun whole hwhole =>
      .pure (proper_pair rfl rfl he hwhole))
  refine .bind (.attempt hfound) fun found h => ?_
  split
  · exact .pure (h _ rfl)
  · exact functionExpr_places hg hinterval _

theorem substringExpr_places : Yields (substringExpr g) Proper := by
  refine .bracketed (.bind (hg.expr 0) fun e he => .step fun comma => ?_)
  extract_lets started
  have hstarted (start : Option Expr) (hstart : ∀ e ∈ start, Proper e) :
      Yields (started start) Proper := by
    refine .step fun marked => ?_
    extract_lets ended
    have hended (length : Option Expr) (hlength : ∀ e ∈ length, Proper e) :
        Yields (ended length) Proper := by
      refine .pure (proper_form rfl rfl ?_)
      simp only [allProper_append, allProper_cons, allProper_nil, allProper_given, List.mem_cons,
        List.not_mem_nil, or_false, forall_eq_or_imp, forall_eq, and_true]
      exact ⟨he, hstart, hlength⟩
    refine .ite (fun _ => .bind (.map (hg.expr 0) ?_) hended)
      fun _ => .bind (.whenever (hg.expr 0)) hended
    exact fun e he => by simpa using he
  refine .ite (fun _ => .bind (.map (hg.expr 0) ?_) hstarted)
    fun _ => .bind (.whenever (hg.expr 0)) hstarted
  exact fun e he => by simpa using he

theorem overlayExpr_places : Yields (overlayExpr g) Proper := by
  refine .bracketed (.bind (hg.expr 0) fun e he => .step fun _ => ?_)
  refine .bind (hg.expr 0) fun what hwhat => .step fun _ => .bind (hg.expr 0) fun start hstart => ?_
  refine .bind (.whenever (hg.expr 0)) fun length hlength => .pure (proper_form rfl rfl ?_)
  exact allProper_append.2 ⟨by simp [he, hwhat, hstart], by simpa using hlength⟩

theorem trimExpr_places : Yields (trimExpr g) Proper := by
  refine .bracketed (.step fun side => ?_)
  extract_lets trimmed
  have htrimmed (side : Option TrimSide) : Yields (trimmed side) Proper := by
    refine .bind (hg.expr 0) fun e he => .step fun marked => .ite (fun _ => ?_) fun _ => ?_
    · exact .bind (hg.expr 0) fun whole hwhole => .pure (proper_pair rfl rfl he hwhole)
    · exact .pure (proper_single rfl rfl he)
  split
  · exact .step htrimmed
  · exact .step htrimmed
  · exact .step htrimmed
  · exact .step htrimmed

omit hg in
theorem intervalExpr_places {value : Parser Expr} (hvalue : Yields value Proper) :
    Yields (intervalExpr value) Proper := by
  refine .bind hvalue fun e he => .step fun k => ?_
  extract_lets led
  have hled (leading : Option DateField) : Yields (led leading) Proper := by
    refine .ite (fun _ => .step fun scale => ?_) fun _ => .step fun precision => .step fun marked => ?_
    · split
      · exact .pure (proper_single rfl rfl he)
      · exact .pure (proper_single rfl rfl he)
    · refine .ite (fun _ => .step fun last => ?_) fun _ => .pure (proper_single rfl rfl he)
      extract_lets ended
      have hended (fraction : Option Nat) : Yields (ended fraction) Proper :=
        .pure (proper_single rfl rfl he)
      exact .ite (fun _ => .step hended) fun _ => .step hended
  split
  · exact .ite (fun _ => .step hled) fun _ => .step hled
  · exact .step hled

theorem arrayExpr_places (named : Bool) : Yields (arrayExpr g named) Proper := by
  refine .step fun closed => ?_
  extract_lets listed
  have hlisted (items : List Expr) (hitems : ∀ e ∈ items, Proper e) : Yields (listed items) Proper :=
    .step fun _ => .pure (proper_form rfl rfl hitems)
  exact .ite (fun _ => .bind (.pure (by simp)) hlisted)
    fun _ => .bind (.commaSeparated (hg.expr 0)) hlisted

theorem arrayQueryExpr_places (name : Ident) : Yields (arrayQueryExpr g name) Proper :=
  .bind (.bracketed hg.query) fun _ hq => .pure (.takes [] rfl (by simp) hq)

theorem notExpr_places : Yields (notExpr g) Proper :=
  .step fun _ => .ite (fun _ => existsExpr_places hg true)
    fun _ => .bind (hg.expr _) fun _ he => .pure (proper_single rfl rfl he)

theorem clockExpr_places (name : Ident) : Yields (clockExpr g name) Proper := by
  refine .step fun bracket => .ite (fun _ => ?_) fun _ => .pure (proper_leaf rfl rfl)
  exact .bind (argList_places hg) fun r h => .pure (proper_form rfl rfl h)

omit hg in
theorem geometricText_places (name : String) :
    Yields (geometricText name) fun found => ∀ e ∈ found, Proper e :=
  .step fun value => .pure (by simpa using proper_leaf rfl rfl)

theorem special_places {value : Parser Expr} (hvalue : Yields value Proper) (w : Word) :
    Yields (special? g value w) fun found => ∀ e ∈ found, Proper e := by
  have hinterval := intervalExpr_places hvalue
  have hsome {p : Parser Expr} (hp : Yields p Proper) :
      Yields (some <$> p) fun found => ∀ e ∈ found, Proper e :=
    .map hp fun e he => by simpa using he
  have hnone : Yields (pure none : Parser (Option Expr)) fun found => ∀ e ∈ found, Proper e :=
    .pure (by simp)
  have hleaf {head : Form} (hquery : head.isQuery = false) (htakes : head.takesQuery = false) :
      Yields (pure (some (leaf head))) fun found => ∀ e ∈ found, Proper e :=
    .pure (by simpa using proper_leaf hquery htakes)
  have hposition (name : Ident) : Yields (do
      if ← peekSymbol .lParen then some <$> positionExpr g (intervalExpr value) name
      else pure none) fun found => ∀ e ∈ found, Proper e :=
    .step fun _ => .ite (fun _ => hsome (positionExpr_places hg hinterval _)) fun _ => hnone
  have harray (name : Ident) : Yields (do
      if ← symbol? .lBracket then some <$> arrayExpr g true
      else if ← peekSymbol .lParen then some <$> arrayQueryExpr g name
      else pure none) fun found => ∀ e ∈ found, Proper e :=
    .step fun _ => .ite (fun _ => hsome (arrayExpr_places hg true)) fun _ =>
      .step fun _ => .ite (fun _ => hsome (arrayQueryExpr_places hg _)) fun _ => hnone
  unfold special?
  dsimp only
  split
  all_goals with_reducible first
    | exact hnone
    | exact hleaf rfl rfl
    | exact geometricText_places _
    | exact hsome hinterval
    | exact hsome (clockExpr_places hg _)
    | exact hsome (caseExpr_places hg)
    | exact hsome (convertExpr_places hg)
    | exact hsome (castExpr_places hg _)
    | exact hsome (existsExpr_places hg _)
    | exact hsome (extractExpr_places hg)
    | exact hsome (roundExpr_places hg _)
    | exact hsome (substringExpr_places hg)
    | exact hsome (overlayExpr_places hg)
    | exact hsome (trimExpr_places hg)
    | exact hsome (notExpr_places hg)
    | exact hposition _
    | exact harray _

theorem plainWord_places {value : Parser Expr} (hvalue : Yields value Proper) (w : Word) :
    Yields (plainWord g value w) Proper := by
  have hintroduced (body : Literal) : Yields (plainWord.introduced w body) Proper := by
    refine .ite (fun _ => .step fun _ => .pure (proper_leaf rfl rfl)) fun _ => ?_
    exact .pure (.column _)
  refine .step fun t => ?_
  split
  · exact functionExpr_places hg (intervalExpr_places hvalue) _
  · exact hintroduced _
  · exact hintroduced _
  · exact .pure (.column _)

theorem wordOperand_places {value : Parser Expr} (hvalue : Yields value Proper) (w : Word) :
    Yields (wordOperand g value w) fun r => Proper r.1 := by
  intro ts r rest h
  simp only [wordOperand] at h
  split at h
  · next e rest' hrun =>
    obtain ⟨rfl, rfl⟩ := Prod.mk.inj (Except.ok.inj h)
    exact special_places hg hvalue w ts _ _ hrun _ rfl
  · cases hrun : plainWord g value w ts with
    | error fault => simp [hrun, Except.map] at h
    | ok r' =>
        simp only [hrun, Except.map, Except.ok.injEq, Prod.mk.injEq] at h
        exact h.1 ▸ plainWord_places hg hvalue w ts r'.1 r'.2 hrun
  · split at h
    · cases h
    · split at h
      · next e rest' hrun =>
        obtain ⟨rfl, rfl⟩ := Prod.mk.inj (Except.ok.inj h)
        exact plainWord_places hg hvalue w ts _ _ hrun
      · cases h

theorem bracketOperand_places : Yields (bracketOperand g) Proper := by
  refine .step fun inner => .ite (fun _ => ?_) fun _ => ?_
  · exact .bind hg.query fun q hq => .step fun _ => .pure (.takes [] rfl (by simp) hq)
  · refine .bind (.commaSeparated (hg.expr 0)) fun items hitems => .step fun _ => ?_
    split
    · exact .pure (proper_single rfl rfl (hitems _ (by simp)))
    · exact .pure (proper_form rfl rfl hitems)

theorem braceOperand_places {value : Parser Expr} (hvalue : Yields value Proper) :
    Yields (braceOperand g value) Proper := by
  refine .step fun _ => .step fun name => ?_
  refine .bind (functionCall_places hg (intervalExpr_places hvalue) name) fun r h => .step fun _ => ?_
  exact .pure (proper_form rfl rfl h)

omit hg in
theorem typedText_places {value : Parser Expr} (hvalue : Yields value Proper) :
    Yields (typedText value) Proper := by
  refine .step fun type => ?_
  split
  · exact intervalExpr_places hvalue
  · exact .fail
  · exact .step fun _ => .pure (proper_leaf rfl rfl)

theorem signed_places (op : UnaryOp) (strength : Nat) : Yields (signed g op strength) Proper :=
  .bind (hg.expr strength) fun _ he => .pure (proper_single rfl rfl he)

omit hg in
theorem constant_places (t : Token) : Yields (constant t) Proper := by
  intro ts e rest h
  cases hrun : literal (t :: ts) with
  | error fault => simp [constant, hrun, Except.map] at h
  | ok r =>
      simp only [constant, hrun, Except.map, Except.ok.injEq, Prod.mk.injEq] at h
      exact h.1 ▸ proper_leaf rfl rfl

theorem tokenOperand_places {value : Parser Expr} (hvalue : Yields value Proper) (t : Token) :
    Yields (tokenOperand g value t) fun r => Proper r.1 := by
  have hmark {p : Parser Expr} (hp : Yields p Proper) :
      Yields ((·, true) <$> p) fun r => Proper r.1 :=
    .map hp fun _ he => he
  unfold tokenOperand
  split
  all_goals with_reducible first
    | exact wordOperand_places hg hvalue _
    | exact hmark (arrayExpr_places hg false)
    | exact hmark (signed_places hg _ _)
    | exact hmark (bracketOperand_places hg)
    | exact hmark (braceOperand_places hg hvalue)
    | exact hmark (constant_places _)
    | exact .fail

theorem operandWith_places (fuel : Nat) : Yields (operandWith g fuel) Proper := by
  induction fuel with
  | zero => exact .fail
  | succ fuel ih =>
      refine .bind (.attempt (typedText_places ih)) fun typed htyped => ?_
      split
      · exact .pure (htyped _ rfl)
      · refine .step fun t => .bind (tokenOperand_places hg ih t) fun r hr => ?_
        refine .ite (fun _ => .step fun marked => .ite (fun _ => ?_) fun _ => .pure hr) fun _ => .pure hr
        exact .step fun collation => .pure (proper_single rfl rfl hr)

theorem operand_places : Yields (operand g) Proper :=
  .atTokens (q := fun ts => operandWith g (ts.length + 1)) fun _ => operandWith_places hg _

end Special

section Access

variable {g : Grammar} (hg : g.Places)

/-- A link whose operands are proper. -/
abbrev LinkPlaces (link : Link) : Prop := AllProper link.2

/-- A list of links whose operands are proper. -/
abbrev LinksPlace (links : List Link) : Prop := ∀ link ∈ links, LinkPlaces link

include hg in
theorem subscript_places : Yields (subscript g) LinkPlaces := by
  refine .step fun open_ => ?_
  extract_lets bounded
  have hbounded (lower : Option Expr) (hlower : ∀ e ∈ lower, Proper e) :
      Yields (bounded lower) LinkPlaces := by
    refine .step fun closed => .ite (fun _ => ?_) fun _ => ?_
    · split
      · exact .pure (by simpa [LinkPlaces] using hlower)
      · exact .pure (by simp [LinkPlaces])
    · extract_lets sliced
      have hsliced : Yields (sliced ()) LinkPlaces := by
        refine .step fun closed => .ite (fun _ => .pure (by simpa [LinkPlaces] using hlower)) fun _ => ?_
        refine .bind (hg.expr 0) fun upper hupper => .step fun closed => ?_
        have htwo : LinkPlaces (.slice lower.isSome true false, given [lower, some upper]) := by
          simpa [LinkPlaces] using ⟨hlower, hupper⟩
        refine .ite (fun _ => .pure htwo) fun _ => .step fun _ => .step fun closed => ?_
        refine .ite (fun _ => .pure htwo) fun _ => .bind (hg.expr 0) fun stride hstride => ?_
        exact .step fun _ => .pure (by simpa [LinkPlaces] using ⟨hlower, hupper, hstride⟩)
      exact .ite (fun _ => .step fun _ => hsliced) fun _ => hsliced
  refine .ite (fun _ => .bind (.pure (by simp)) hbounded) fun _ => ?_
  exact .bind (.map (hg.expr 0) fun e he => by simpa using he) hbounded

theorem splitLinks_places {steps : List AccessStep} {operands : List Expr}
    (h : AllProper operands) : LinksPlace (splitLinks steps operands) := by
  induction steps generalizing operands with
  | nil => simp [splitLinks]
  | cons step steps ih =>
      refine List.forall_mem_cons.2 ⟨fun e he => h e (List.mem_of_mem_take he), ih fun e he => ?_⟩
      exact h e (List.mem_of_mem_drop he)

theorem linksAfterPeriod_places {e : Expr} (he : Proper e) : LinksPlace (linksAfterPeriod e) := by
  unfold linksAfterPeriod
  split
  · refine List.forall_mem_map.2 fun name _ => ?_
    simp [LinkPlaces, Proper.column]
  · next steps root operands =>
    have hall : AllProper (root :: operands) := he.operands rfl
    have hroot : LinkPlaces (.dot, [root]) := by simpa [LinkPlaces] using (allProper_cons.1 hall).1
    exact List.forall_mem_cons.2 ⟨hroot, splitLinks_places (allProper_cons.1 hall).2⟩
  · exact List.forall_mem_singleton.2 (by simpa [LinkPlaces] using he)

include hg in
theorem chain_places (fuel : Nat) : Yields (chain g fuel) fun r => LinksPlace r.1 := by
  induction fuel with
  | zero => exact .fail
  | succ fuel ih =>
      refine .step fun period => .ite (fun _ => .step fun star => ?_) fun _ => .step fun square => ?_
      · refine .ite (fun _ => .pure (by simp)) fun _ => .step fun t => ?_
        extract_lets linked
        have hlinked (links : List Link) (hlinks : LinksPlace links) :
            Yields (linked links) fun r => LinksPlace r.1 :=
          .bind ih fun r hr => .pure (List.forall_mem_append.2 ⟨hlinks, hr⟩)
        split
        · exact .step fun _ => .bind (.pure (by simp [LinkPlaces, Proper.column])) hlinked
        · exact .bind (.map (hg.expr _) fun e he => linksAfterPeriod_places he) hlinked
      · refine .ite (fun _ => .bind (subscript_places hg) fun link hlink => ?_) fun _ => .pure (by simp)
        exact .bind ih fun r hr => .pure (List.forall_mem_cons.2 ⟨hlink, hr⟩)

theorem qualifiedCall_places {root : Expr} {links : List Link} (hlinks : LinksPlace links) :
    ∀ e ∈ qualifiedCall? root links, Proper e := by
  intro e he
  simp only [qualifiedCall?, Option.bind_eq_bind, Option.mem_def, Option.bind_eq_some_iff] at he
  obtain ⟨last, hlast, names, -, he⟩ := he
  have hplaces : LinkPlaces last := hlinks last (List.mem_of_getLast? hlast)
  split at he
  · next c operands =>
    obtain rfl := Option.some.inj he
    have hcall : Proper (.form (.call c) operands) := hplaces _ (by simp)
    exact proper_form rfl rfl (hcall.operands rfl)
  · next name operands =>
    obtain rfl := Option.some.inj he
    have hquery : Proper (.form (.arrayQuery name) operands) := hplaces _ (by simp)
    exact hquery.rehead rfl rfl
  · cases he

theorem joined_places {root : Expr} {links : List Link} (hroot : Proper root)
    (hlinks : LinksPlace links) : Proper (joined root links) := by
  unfold joined
  split
  · exact hroot
  · split
    · exact .path _
    · split
      · next e hcall => exact qualifiedCall_places hlinks e hcall
      · refine proper_form rfl rfl (allProper_cons.2 ⟨hroot, fun e he => ?_⟩)
        obtain ⟨link, hlink, hmem⟩ := List.mem_flatMap.1 he
        exact hlinks link hlink e hmem

include hg in
theorem accessed_places {root : Expr} (hroot : Proper root) : Yields (accessed g root) Proper := by
  refine .bind (.atTokens (q := fun ts => chain g (ts.length + 1)) fun _ => chain_places hg _)
    fun r hr => .ite (fun _ => ?_) fun _ => .pure (joined_places hroot hr)
  split
  · exact .pure (proper_leaf rfl rfl)
  · exact .fail

end Access

section Infix

variable {g : Grammar} (hg : g.Places)

include hg

theorem isTest_places {e : Expr} (he : Proper e) : Yields (isTest g e) Proper := by
  have htest (negated : Bool) (what : Test) : Proper (.form (.test negated what) [e]) :=
    proper_single rfl rfl he
  refine .step fun negated => .bind (P := fun found => ∀ e ∈ found, Proper e) ?_ fun found hfound => ?_
  · refine .step fun k => ?_
    split
    case h_5 =>
      refine .step fun distinct => .ite (fun _ => ?_) fun _ => .pure (by simp)
      exact .bind (hg.expr 0) fun other hother => .pure (by simpa using proper_pair rfl rfl he hother)
    all_goals exact .pure (by simpa using htest _ _)
  · split
    · exact .pure (hfound _ rfl)
    · refine .step fun form => ?_
      extract_lets normalized
      have hnormalized (form : Option Normalization) : Yields (normalized form) Proper :=
        .step fun _ => .pure (htest _ _)
      split
      all_goals exact .step hnormalized

theorem inExpr_places {e : Expr} (he : Proper e) (negated : Bool) :
    Yields (inExpr g e negated) Proper := by
  refine .step fun unnest => .ite (fun _ => ?_) fun _ => .bracketed (.step fun inner => ?_)
  · exact .bind (.bracketed (hg.expr 0)) fun array harray => .pure (proper_pair rfl rfl he harray)
  · refine .ite (fun _ => .bind hg.query fun q hq => .pure ?_) fun _ => ?_
    · exact .takes [e] rfl (by simpa using he) hq
    · refine .bind (.commaSeparated (hg.expr 0)) fun items hitems => .pure ?_
      exact proper_form rfl rfl (allProper_cons.2 ⟨he, hitems⟩)

theorem likeExpr_places (kind : LikeKind) {e : Expr} (he : Proper e) (negated : Bool) :
    Yields (likeExpr g kind e negated) Proper := by
  unfold likeExpr
  extract_lets matched
  have hmatched (any : Bool) : Yields (matched any) Proper :=
    .bind (hg.expr _) fun pattern hpattern => .step fun _ => .pure (proper_pair rfl rfl he hpattern)
  split
  · exact .step hmatched
  · exact .step hmatched

theorem rangeTest_places {e : Expr} (he : Proper e) : Yields (rangeTest g e) Proper := by
  refine .step fun negated => .step fun regexp => .step fun rlike => .ite (fun _ => ?_) fun _ => ?_
  · exact .bind (hg.expr _) fun pattern hpattern => .pure (proper_pair rfl rfl he hpattern)
  refine .step fun isIn => .ite (fun _ => inExpr_places hg he negated) fun _ => ?_
  refine .step fun between => .ite (fun _ => ?_) fun _ => ?_
  · refine .bind (hg.expr _) fun low hlow => .step fun _ => .bind (hg.expr _) fun high hhigh => ?_
    exact .pure (proper_form rfl rfl (by simp [he, hlow, hhigh]))
  refine .step fun like => .ite (fun _ => likeExpr_places hg _ he _) fun _ => ?_
  refine .step fun ilike => .ite (fun _ => likeExpr_places hg _ he _) fun _ => ?_
  exact .step fun similar => .ite (fun _ => likeExpr_places hg _ he _) fun _ => .fail

theorem rightSide_places {e : Expr} (he : Proper e) (op : BinaryOp) (strength : Nat) :
    Yields (rightSide g e op strength) Proper := by
  refine .step fun k => ?_
  split
  · refine .step fun t => ?_
    extract_lets quantifier compared
    have hcompared (right : Expr) (hright : Proper right) : Yields (compared right) Proper :=
      .ite (fun _ => .pure (proper_pair rfl rfl he hright)) fun _ => .fail
    split
    · refine .step fun bracket => .ite (fun _ => ?_) fun _ => ?_
      · exact .bind (hg.expr _) hcompared
      · exact .bind (.bracketed (hg.expr _)) hcompared
    · exact .bind .fail hcompared
  · exact .bind (hg.expr _) fun right hright => .pure (proper_pair rfl rfl he hright)

theorem extended_places {e : Expr} (he : Proper e) (strength : Nat) :
    Yields (extended g e strength) Proper := by
  refine .step fun op => ?_
  split
  · exact rightSide_places hg he _ _
  · refine .step fun k => ?_
    split
    · exact .step fun _ => isTest_places hg he
    · refine .step fun _ => .bind (hg.expr _) fun zone hzone => .pure (proper_pair rfl rfl he hzone)
    case h_11 => exact .fail
    case h_12 =>
      refine .step fun cast => .ite (fun _ => ?_) fun _ => ?_
      · exact .step fun type => .pure (proper_single rfl rfl he)
      · exact .step fun bang => .ite (fun _ => .pure (proper_single rfl rfl he)) fun _ => .fail
    all_goals exact rangeTest_places hg he

theorem extendedLoop_places (least fuel : Nat) {e : Expr} (he : Proper e) :
    Yields (extendedLoop g least fuel e) Proper := by
  induction fuel generalizing e with
  | zero => exact .fail
  | succ fuel ih =>
      intro ts x rest h
      simp only [extendedLoop] at h
      split at h
      · obtain ⟨rfl, rfl⟩ := Prod.mk.inj (Except.ok.inj h)
        exact he
      · exact Yields.bind (extended_places hg he _) (fun e he => ih he) ts x rest h

theorem exprAbove_places (least : Nat) : Yields (exprAbove g least) Proper := by
  refine .bind (operand_places hg) fun root hroot => .bind (accessed_places hg hroot) fun e he => ?_
  exact .atTokens (q := fun ts => extendedLoop g least (ts.length + 1) e)
    fun _ => extendedLoop_places hg least _ he

end Infix

end GeoLayers.Sql.Parser
