import GeoLayers.Proofs.Sql.Reread.Operands

/-!
What follows an operand with periods and square brackets. A path is put together from the links of a
chain; that an access chain after a period gives no names shows that all names of a path were read as
names.
-/

namespace GeoLayers.Sql.Parser

section

variable {g : Grammar} {R : Reading} {ts rest : List Token} {e : Expr}

/-- Taking the links of a chain apart again. -/
theorem splitLinks_joined {links : List Link} (h : ∀ link ∈ links, link.IsWhole) :
    splitLinks (links.map Prod.fst) (links.flatMap Prod.snd) = links := by
  induction links with
  | nil => rfl
  | cons link links ih =>
      obtain ⟨step, operands⟩ := link
      obtain ⟨hlink, hlinks⟩ := List.forall_mem_cons.1 h
      have hsplit (more : List Expr) : splitLinks (step :: links.map Prod.fst) (operands ++ more) =
          (step, operands) :: splitLinks (links.map Prod.fst) more := by
        have hlength : operands.length = AccessStep.arity step := hlink
        cases step <;> simp only [splitLinks, AccessStep.arity] at hlength ⊢ <;> simp [← hlength]
      rw [List.map_cons, List.flatMap_cons, hsplit, ih hlinks]

/-- A link between square brackets has its operands and adds no name to a path. -/
theorem subscript_whole (g : Grammar) :
    Yields (subscript g) fun link => link.IsWhole ∧ link.name? = none := by
  refine .step fun start => ?_
  extract_lets bounded
  have hbounded (lower : Option Expr) :
      Yields (bounded lower) fun link => link.IsWhole ∧ link.name? = none := by
    refine .step fun closed => .ite (fun _ => ?_) fun _ => ?_
    · split
      · exact .pure ⟨rfl, rfl⟩
      · exact .pure ⟨rfl, rfl⟩
    · extract_lets sliced
      have hlower : Yields (pure (.slice lower.isSome false false, given [lower]) : Parser Link)
          fun link => link.IsWhole ∧ link.name? = none := by
        cases lower <;> exact .pure ⟨rfl, rfl⟩
      have hupper (upper : Expr) :
          Yields (pure (.slice lower.isSome true false, given [lower, some upper]) : Parser Link)
            fun link => link.IsWhole ∧ link.name? = none := by
        cases lower <;> exact .pure ⟨rfl, rfl⟩
      have hsliced : Yields (sliced ()) fun link => link.IsWhole ∧ link.name? = none := by
        refine .step fun closed => .ite (fun _ => hlower) fun _ => .step fun upper => ?_
        refine .step fun closed => .ite (fun _ => hupper upper) fun _ => .step fun _ => ?_
        refine .step fun closed => .ite (fun _ => hupper upper) fun _ => .step fun stride => ?_
        refine .step fun _ => ?_
        cases lower <;> exact .pure ⟨rfl, rfl⟩
      exact .ite (fun _ => .step fun _ => hsliced) fun _ => hsliced
  exact .ite (fun _ => .step hbounded) fun _ => .step hbounded

theorem dots_end {names : List Ident} (h : Dots R ts names rest) :
    rest.head? ≠ some (.symbol .period) := by
  induction h with
  | stop h => exact h
  | text _ ih => exact ih
  | column _ _ ih => exact ih
  | path _ _ ih => exact ih

/-- The names of links one after the other. -/
theorem names_append {links more : List Link} {names : List Ident}
    (h : (links ++ more).mapM Link.name? = some names) :
    ∃ first others, links.mapM Link.name? = some first ∧ more.mapM Link.name? = some others ∧
      names = first ++ others := by
  rw [List.mapM_append] at h
  simp only [Option.bind_eq_bind, Option.bind_eq_some_iff, Option.pure_def, Option.some.injEq] at h
  obtain ⟨first, hfirst, others, hothers, rfl⟩ := h
  exact ⟨first, others, hfirst, hothers, rfl⟩

/-- What the links of a chain are. -/
structure ChainReads (R : Reading) (ts : List Token) (links : List Link) (starred : Bool)
    (rest : List Token) : Prop where
  whole : ∀ link ∈ links, link.IsWhole
  stays : links = [] → starred = false → rest = ts ∧ ts.head? ≠ some (.symbol .period)
  names : ∀ names, starred = false → links.mapM Link.name? = some names → Dots R ts names rest

/-- Joining a chain to the links of an expression after a period. -/
theorem chainReads_period (hg : g.Derives R) {mid : List Token} {more : List Link} {starred : Bool}
    (he : g.expr periodStrength ts = .ok (e, mid)) (hmore : ChainReads R mid more starred rest) :
    ChainReads R (.symbol .period :: ts) (linksAfterPeriod e ++ more) starred rest := by
  have hlinked := hg.linked he
  constructor
  · exact List.forall_mem_append.2 ⟨hlinked.whole, hmore.whole⟩
  · intro hnil
    exact absurd (List.append_eq_nil_iff.1 hnil).1 hlinked.nonempty
  · intro names hstarred hnames
    obtain ⟨first, others, hfirst, hothers, rfl⟩ := names_append hnames
    have hdots := hmore.names others hstarred hothers
    cases e with
    | column name =>
        obtain rfl := Option.some.inj hfirst
        exact .column (hg.plain he rfl) hdots
    | path parts =>
        have hparts : (parts.map fun name => ((.dot, [.column name]) : Link)).mapM Link.name? =
            some parts := by
          clear hlinked hfirst he hnames
          induction parts with
          | nil => rfl
          | cons name parts ih =>
              rw [List.map_cons, List.mapM_cons, ih]
              rfl
        obtain rfl := Option.some.inj (hparts.symm.trans hfirst)
        refine .path (hg.plain he ?_) hdots
        have hne : parts ≠ [] := fun hnil => hlinked.nonempty (by rw [hnil]; rfl)
        simpa [Expr.isPlain] using hne
    | form head operands =>
        rw [hlinked.unnamed rfl] at hfirst
        cases hfirst

theorem chain_reads (hg : g.Derives R) {fuel : Nat} {r : List Link × Bool}
    (h : chain g fuel ts = .ok (r, rest)) : ChainReads R ts r.1 r.2 rest := by
  induction fuel generalizing ts r with
  | zero => cases h
  | succ fuel ih =>
      obtain ⟨period, mid, hperiod, hmid⟩ := bind_eq_ok h
      obtain ⟨rfl, rfl⟩ | ⟨rfl, rfl, hnone⟩ := symbol?_eq_ok hperiod
      · rw [if_pos rfl] at hmid
        obtain ⟨star, mid', hstar, hlinks⟩ := bind_eq_ok hmid
        obtain ⟨rfl, rfl⟩ | ⟨rfl, rfl, -⟩ := symbol?_eq_ok hstar
        · rw [if_pos rfl] at hlinks
          obtain ⟨rfl, rfl⟩ := pure_eq_ok hlinks
          exact ⟨by simp, by simp, by simp⟩
        · rw [if_neg (by simp)] at hlinks
          obtain ⟨t, mid', hpeek, hnext⟩ := bind_eq_ok hlinks
          obtain ⟨hhead, rfl⟩ := Prod.mk.inj (Except.ok.inj hpeek)
          extract_lets linked at hnext
          have hlinked {links : List Link} {ts : List Token} (h : linked links ts = .ok (r, rest)) :
              ∃ more starred, ChainReads R ts more starred rest ∧ r = (links ++ more, starred) := by
            obtain ⟨⟨more, starred⟩, last, hmore, hlast⟩ := bind_eq_ok h
            obtain ⟨rfl, rfl⟩ := pure_eq_ok hlast
            exact ⟨more, starred, ih hmore, rfl⟩
          split at hnext
          · next body =>
            obtain ⟨t, mid', htaken, hpure⟩ := bind_eq_ok hnext
            obtain rfl := next_eq_ok htaken
            obtain rfl := Option.some.inj hhead
            obtain ⟨links, mid'', hlink, hchain⟩ := bind_eq_ok hpure
            obtain ⟨rfl, rfl⟩ := pure_eq_ok hlink
            obtain ⟨more, starred, hmore, rfl⟩ := hlinked hchain
            refine ⟨List.forall_mem_cons.2 ⟨rfl, hmore.whole⟩, by simp, ?_⟩
            intro names hstarred hnames
            obtain ⟨first, others, hfirst, hothers, rfl⟩ := names_append hnames
            obtain rfl := Option.some.inj hfirst
            exact .text (hmore.names others hstarred hothers)
          · obtain ⟨links, mid', hlink, hchain⟩ := bind_eq_ok hnext
            obtain ⟨e, he, rfl⟩ := map_eq_ok hlink
            obtain ⟨more, starred, hmore, rfl⟩ := hlinked hchain
            exact chainReads_period hg he hmore
      · rw [if_neg (by simp)] at hmid
        obtain ⟨square, mid', hsquare, hlinks⟩ := bind_eq_ok hmid
        obtain ⟨rfl, rfl⟩ | ⟨rfl, rfl, -⟩ := symbol?_eq_ok hsquare
        · rw [if_pos rfl] at hlinks
          obtain ⟨link, mid'', hlink, hchain⟩ := bind_eq_ok hlinks
          obtain ⟨⟨more, starred⟩, last, hmore, hlast⟩ := bind_eq_ok hchain
          obtain ⟨rfl, rfl⟩ := pure_eq_ok hlast
          obtain ⟨hwhole, hname⟩ := subscript_whole g _ _ _ hlink
          refine ⟨List.forall_mem_cons.2 ⟨hwhole, (ih hmore).whole⟩, by simp, ?_⟩
          intro names hstarred hnames
          rw [List.mapM_cons, hname] at hnames
          cases hnames
        · rw [if_neg (by simp)] at hlinks
          obtain ⟨rfl, rfl⟩ := pure_eq_ok hlinks
          refine ⟨by simp, fun _ _ => ⟨rfl, hnone⟩, ?_⟩
          intro names _ hnames
          obtain rfl := Option.some.inj hnames
          exact .stop hnone

theorem linked_single (h : e.isChain = false) : Linked e := by
  have hlinks : linksAfterPeriod e = [(.dot, [e])] := by
    cases e with
    | column name => rfl
    | path parts => cases h
    | form head operands =>
        cases head with
        | access steps => cases h
        | _ => rfl
  refine ⟨by simp [hlinks], by simp [hlinks, Link.IsWhole, AccessStep.arity], fun hname => ?_⟩
  rw [hlinks]
  cases e with
  | form head operands => rfl
  | column name => cases hname
  | path parts => cases h

theorem qualifiedCall_foreign {root : Expr} {links : List Link}
    (h : qualifiedCall? root links = some e) : e.isForeign = true := by
  simp only [qualifiedCall?, Option.bind_eq_bind, Option.bind_eq_some_iff] at h
  obtain ⟨link, -, names, -, hcall⟩ := h
  split at hcall
  · obtain rfl := Option.some.inj hcall
    rfl
  · obtain rfl := Option.some.inj hcall
    rfl
  · cases hcall

/-- A chain that is not a path gives no names after another period. -/
theorem linked_access {root : Expr} {links : List Link} (hwhole : ∀ link ∈ links, link.IsWhole)
    (hnames : names? root links = none) :
    Linked (.form (.access (links.map Prod.fst)) (root :: links.flatMap Prod.snd)) := by
  have hlinks : linksAfterPeriod
      (.form (.access (links.map Prod.fst)) (root :: links.flatMap Prod.snd)) =
        (.dot, [root]) :: links := by
    rw [linksAfterPeriod, splitLinks_joined hwhole]
  refine ⟨by simp [hlinks], ?_, fun _ => ?_⟩
  · rw [hlinks]
    exact List.forall_mem_cons.2 ⟨rfl, hwhole⟩
  · rw [hlinks, List.mapM_cons]
    cases root with
    | column name =>
        have hnone : links.mapM Link.name? = none := Option.map_eq_none_iff.1 hnames
        rw [hnone]
        rfl
    | _ => rfl

theorem joined_derives {root : Expr} {links : List Link} {mid : List Token}
    (hroot : Opens R ts root mid) (hreads : ChainReads R mid links false rest) :
    Linked (joined root links) ∧ ((joined root links).isPlain = true →
      Starts R ts (joined root links) rest ∧ rest.head? ≠ some (.symbol .period)) := by
  by_cases hnil : links = []
  · rw [hnil]
    obtain ⟨rfl, hperiod⟩ := hreads.stays hnil rfl
    exact ⟨linked_single hroot.single, fun hplain => ⟨hroot.starts hplain, hperiod⟩⟩
  have hempty : links.isEmpty = false := by simpa using hnil
  cases hnames : names? root links with
  | some names =>
      have hjoined : joined root links = .path names := by simp [joined, hempty, hnames]
      rw [hjoined]
      cases root with
      | column name =>
          obtain ⟨others, hothers, rfl⟩ := Option.map_eq_some_iff.1 hnames
          refine ⟨⟨by simp [linksAfterPeriod], ?_, by simp [Expr.isName]⟩, fun _ => ?_⟩
          · simp [linksAfterPeriod, Link.IsWhole, AccessStep.arity]
          · have hdots := hreads.names others rfl hothers
            have hne : others ≠ [] := by
              rintro rfl
              cases links with
              | nil => exact hnil rfl
              | cons link links =>
                  rw [List.mapM_cons] at hothers
                  simp [Option.bind_eq_some_iff] at hothers
            cases hroot.starts rfl with
            | column w => exact ⟨.path w hdots hne, dots_end hdots⟩
      | _ => cases hnames
  | none =>
      cases hcall : qualifiedCall? root links with
      | some e =>
          have hjoined : joined root links = e := by simp [joined, hempty, hnames, hcall]
          have hforeign := qualifiedCall_foreign hcall
          rw [hjoined]
          refine ⟨linked_single (Expr.isChain_of_isForeign hforeign), fun hplain => ?_⟩
          rw [Expr.isPlain_of_isForeign hforeign] at hplain
          cases hplain
      | none =>
          have hjoined : joined root links =
              .form (.access (links.map Prod.fst)) (root :: links.flatMap Prod.snd) := by
            simp [joined, hempty, hnames, hcall]
          rw [hjoined]
          refine ⟨linked_access hreads.whole hnames, fun hplain => ?_⟩
          cases hplain

/-- An operand with what follows it after periods and between square brackets. -/
theorem accessed_derives (hg : g.Derives R) {root x : Expr} {mid : List Token}
    (hroot : Opens R ts root mid) (h : accessed g root mid = .ok (x, rest)) :
    Linked x ∧ (x.isPlain = true → Starts R ts x rest ∧ rest.head? ≠ some (.symbol .period)) := by
  obtain ⟨⟨links, starred⟩, last, hchain, hlast⟩ := bind_eq_ok h
  have hreads : ChainReads R mid links starred last := chain_reads hg hchain
  dsimp only at hlast
  cases starred with
  | true =>
      rw [if_pos rfl] at hlast
      cases hnames : names? root links with
      | none =>
          rw [hnames] at hlast
          cases hlast
      | some names =>
          rw [hnames] at hlast
          obtain ⟨rfl, -⟩ := pure_eq_ok hlast
          refine ⟨linked_single rfl, fun hplain => ?_⟩
          cases hplain
  | false =>
      rw [if_neg (by simp)] at hlast
      obtain ⟨rfl, rfl⟩ := pure_eq_ok hlast
      exact joined_derives hroot hreads

end

end GeoLayers.Sql.Parser
