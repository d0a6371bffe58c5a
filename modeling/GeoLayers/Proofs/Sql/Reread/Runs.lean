import GeoLayers.Sql.Parser.Query

/-!
Single runs of the small parsers, in both directions: what the tokens were if a run gave a result,
and what a run gives on tokens that are known.
-/

namespace GeoLayers.Sql.Parser

section

variable {α β : Type} {p : Parser α} {ts mid rest : List Token}

theorem bind_eq_ok {f : α → Parser β} {y : β} (h : (p >>= f) ts = .ok (y, rest)) :
    ∃ x mid, p ts = .ok (x, mid) ∧ f x mid = .ok (y, rest) := by
  change (p ts >>= fun r => f r.1 r.2) = .ok (y, rest) at h
  cases hrun : p ts with
  | error fault =>
      rw [hrun] at h
      cases h
  | ok r =>
      rw [hrun] at h
      exact ⟨r.1, r.2, rfl, h⟩

/-- A run after a run. -/
theorem bind_run {x : α} (h : p ts = .ok (x, mid)) (f : α → Parser β) :
    (p >>= f) ts = f x mid := by
  change (p ts >>= fun r => f r.1 r.2) = _
  rw [h]
  rfl

theorem bind_fails {fault : Fault} (h : p ts = .error fault) (f : α → Parser β) :
    (p >>= f) ts = .error fault := by
  change (p ts >>= fun r => f r.1 r.2) = _
  rw [h]
  rfl

theorem map_fails {fault : Fault} (h : p ts = .error fault) (f : α → β) :
    (f <$> p) ts = .error fault :=
  bind_fails h fun x => pure (f x)

theorem pure_eq_ok {x y : α} (h : (pure x : Parser α) ts = .ok (y, rest)) : x = y ∧ ts = rest :=
  Prod.mk.inj (Except.ok.inj h)

theorem map_eq_ok {f : α → β} {y : β} (h : (f <$> p) ts = .ok (y, rest)) :
    ∃ x, p ts = .ok (x, rest) ∧ f x = y := by
  obtain ⟨x, mid, hp, hf⟩ := bind_eq_ok (f := fun x => pure (f x)) h
  obtain ⟨hx, rfl⟩ := pure_eq_ok hf
  exact ⟨x, hp, hx⟩

theorem map_run {x : α} (h : p ts = .ok (x, rest)) (f : α → β) :
    (f <$> p) ts = .ok (f x, rest) :=
  bind_run h fun x => pure (f x)

theorem attempt_eq_ok {found : Option α} (h : attempt p ts = .ok (found, rest)) :
    (∃ x, found = some x ∧ p ts = .ok (x, rest)) ∨ (found = none ∧ rest = ts) := by
  unfold attempt at h
  split at h
  · next x rest' hrun =>
    obtain ⟨rfl, rfl⟩ := Prod.mk.inj (Except.ok.inj h)
    exact .inl ⟨x, rfl, hrun⟩
  · cases h
  · obtain ⟨rfl, rfl⟩ := Prod.mk.inj (Except.ok.inj h)
    exact .inr ⟨rfl, rfl⟩

theorem attempt_unexpected (h : p ts = .error .unexpected) : attempt p ts = .ok (none, ts) := by
  unfold attempt
  rw [h]

theorem next_eq_ok {t : Token} (h : next ts = .ok (t, rest)) : ts = t :: rest := by
  cases ts with
  | nil => cases h
  | cons t' ts =>
      obtain ⟨rfl, rfl⟩ := Prod.mk.inj (Except.ok.inj h)
      rfl

theorem symbol?_eq_ok {s : Symbol} {there : Bool} (h : symbol? s ts = .ok (there, rest)) :
    (there = true ∧ ts = .symbol s :: rest) ∨
      (there = false ∧ rest = ts ∧ ts.head? ≠ some (.symbol s)) := by
  unfold symbol? at h
  split at h
  · next s' ts =>
    split at h
    · next hs =>
      obtain ⟨rfl, rfl⟩ := Prod.mk.inj (Except.ok.inj h)
      exact .inl ⟨rfl, by rw [hs]⟩
    · next hs =>
      obtain ⟨rfl, rfl⟩ := Prod.mk.inj (Except.ok.inj h)
      exact .inr ⟨rfl, rfl, by simpa using fun heq => hs heq.symm⟩
  · next hne =>
    obtain ⟨rfl, rfl⟩ := Prod.mk.inj (Except.ok.inj h)
    refine .inr ⟨rfl, rfl, fun hhead => ?_⟩
    cases ts with
    | nil => cases hhead
    | cons t ts =>
        obtain rfl := Option.some.inj hhead
        exact hne s ts rfl

@[simp] theorem symbol?_there (s : Symbol) (ts : List Token) :
    symbol? s (.symbol s :: ts) = .ok (true, ts) := by
  simp [symbol?]

theorem symbol?_missing {s : Symbol} (h : ts.head? ≠ some (.symbol s)) :
    symbol? s ts = .ok (false, ts) := by
  unfold symbol?
  split
  · next s' ts =>
    rw [if_neg]
    intro hs
    exact h (by rw [hs]; rfl)
  · rfl

theorem symbol_eq_ok {s : Symbol} {u : Unit} (h : symbol s ts = .ok (u, rest)) :
    ts = .symbol s :: rest := by
  obtain ⟨there, mid, hrun, hrest⟩ := bind_eq_ok h
  obtain ⟨rfl, hts⟩ | ⟨rfl, -, -⟩ := symbol?_eq_ok hrun
  · obtain ⟨-, rfl⟩ := pure_eq_ok hrest
    exact hts
  · cases hrest

@[simp] theorem symbol_there (s : Symbol) (ts : List Token) :
    symbol s (.symbol s :: ts) = .ok ((), ts) :=
  bind_run (symbol?_there s ts) _

theorem peekKeyword?_eq_ok {k : Option Keyword} (h : peekKeyword? ts = .ok (k, rest)) :
    k = ts.head?.bind Token.keyword? ∧ rest = ts := by
  obtain ⟨rfl, rfl⟩ := Prod.mk.inj (Except.ok.inj h)
  exact ⟨rfl, rfl⟩

theorem keyword?_missing {k : Keyword} (h : ts.head?.bind Token.keyword? ≠ some k) :
    keyword? k ts = .ok (false, ts) := by
  cases ts with
  | nil => rfl
  | cons t ts => exact if_neg h

/-- Taking one of several keywords, where none of them is in front. -/
theorem oneOf?_missing {ks : List Keyword} (h : ∀ k ∈ ks, ts.head?.bind Token.keyword? ≠ some k) :
    oneOf? ks ts = .ok (none, ts) := by
  cases ts with
  | nil => rfl
  | cons t ts =>
      cases hk : t.keyword? with
      | none => simp only [oneOf?, hk]
      | some k =>
          have hmem : k ∉ ks := fun hmem => h k hmem hk
          simp only [oneOf?, hk, if_neg hmem]

end

theorem stays_of_oneOf {ks : List Keyword} {ts rest : List Token}
    (h : oneOf? ks ts = .ok (none, rest)) : rest = ts := by
  unfold oneOf? at h
  split at h
  · split at h
    · split at h
      · cases h
      · exact (Prod.mk.inj (Except.ok.inj h)).2.symm
    · exact (Prod.mk.inj (Except.ok.inj h)).2.symm
  · exact (Prod.mk.inj (Except.ok.inj h)).2.symm

theorem bracketed_eq_ok {α : Type} {p : Parser α} {ts rest : List Token} {x : α}
    (h : bracketed p ts = .ok (x, rest)) :
    ∃ mid, ts = .symbol .lParen :: mid ∧ p mid = .ok (x, .symbol .rParen :: rest) := by
  obtain ⟨u, mid, hopen, hmid⟩ := bind_eq_ok h
  obtain ⟨y, mid', hrun, hclose⟩ := bind_eq_ok hmid
  obtain ⟨u', last, hparen, hlast⟩ := bind_eq_ok hclose
  obtain ⟨rfl, rfl⟩ := pure_eq_ok hlast
  obtain rfl := symbol_eq_ok hparen
  exact ⟨mid, symbol_eq_ok hopen, hrun⟩

theorem atQuery_stays {ts rest : List Token} {there : Bool} (h : atQuery ts = .ok (there, rest)) :
    rest = ts := by
  obtain ⟨k, mid, hpeek, hthere⟩ := bind_eq_ok h
  obtain ⟨-, rfl⟩ := peekKeyword?_eq_ok hpeek
  split at hthere
  all_goals exact (pure_eq_ok hthere).2.symm

/-- Whether only keywords are in front of the tokens that follow. -/
def Skips (ts rest : List Token) : Prop := ∃ ks, afterKeywords ks ts = some rest

section

variable {ts mid rest : List Token}

theorem Skips.refl (ts : List Token) : Skips ts ts := ⟨[], rfl⟩

theorem Skips.trans (h : Skips ts mid) (h' : Skips mid rest) : Skips ts rest := by
  obtain ⟨ks, hks⟩ := h
  obtain ⟨ks', hks'⟩ := h'
  refine ⟨ks ++ ks', ?_⟩
  induction ks generalizing ts with
  | nil =>
      obtain rfl := Option.some.inj hks
      exact hks'
  | cons k ks ih =>
      cases ts with
      | nil => cases hks
      | cons t ts =>
          rw [afterKeywords] at hks
          rw [List.cons_append, afterKeywords]
          split at hks
          · next hk =>
            rw [if_pos hk]
            exact ih hks
          · cases hks

theorem keyword?_eq_ok {k : Keyword} {there : Bool} (h : keyword? k ts = .ok (there, rest)) :
    (there = true ∧ afterKeywords [k] ts = some rest) ∨
      (there = false ∧ rest = ts ∧ ts.head?.bind Token.keyword? ≠ some k) := by
  unfold keyword? at h
  split at h
  · next t ts =>
    split at h
    · next hk =>
      obtain ⟨rfl, rfl⟩ := Prod.mk.inj (Except.ok.inj h)
      exact .inl ⟨rfl, by rw [afterKeywords, if_pos hk]; rfl⟩
    · next hk =>
      obtain ⟨rfl, rfl⟩ := Prod.mk.inj (Except.ok.inj h)
      exact .inr ⟨rfl, rfl, hk⟩
  · obtain ⟨rfl, rfl⟩ := Prod.mk.inj (Except.ok.inj h)
    exact .inr ⟨rfl, rfl, by simp⟩

theorem keyword_eq_ok {k : Keyword} {u : Unit} (h : keyword k ts = .ok (u, rest)) :
    afterKeywords [k] ts = some rest := by
  obtain ⟨there, mid, hrun, hrest⟩ := bind_eq_ok h
  obtain ⟨rfl, hafter⟩ | ⟨rfl, -, -⟩ := keyword?_eq_ok hrun
  · obtain ⟨-, rfl⟩ := pure_eq_ok hrest
    exact hafter
  · cases hrest

theorem keywords?_eq_ok {ks : List Keyword} {there : Bool}
    (h : keywords? ks ts = .ok (there, rest)) :
    (there = true ∧ afterKeywords ks ts = some rest) ∨ (there = false ∧ rest = ts) := by
  unfold keywords? at h
  split at h
  · next hafter =>
    obtain ⟨rfl, rfl⟩ := Prod.mk.inj (Except.ok.inj h)
    exact .inl ⟨rfl, hafter⟩
  · obtain ⟨rfl, rfl⟩ := Prod.mk.inj (Except.ok.inj h)
    exact .inr ⟨rfl, rfl⟩

theorem keywords_eq_ok {ks : List Keyword} {u : Unit} (h : keywords ks ts = .ok (u, rest)) :
    afterKeywords ks ts = some rest := by
  obtain ⟨there, mid, hrun, hrest⟩ := bind_eq_ok h
  obtain ⟨rfl, hafter⟩ | ⟨rfl, -⟩ := keywords?_eq_ok hrun
  · obtain ⟨-, rfl⟩ := pure_eq_ok hrest
    exact hafter
  · cases hrest

theorem Skips.keyword? {k : Keyword} {there : Bool}
    (h : Parser.keyword? k ts = .ok (there, rest)) : Skips ts rest := by
  obtain ⟨-, hafter⟩ | ⟨-, rfl, -⟩ := keyword?_eq_ok h
  · exact ⟨[k], hafter⟩
  · exact .refl _

theorem Skips.keywords? {ks : List Keyword} {there : Bool}
    (h : Parser.keywords? ks ts = .ok (there, rest)) : Skips ts rest := by
  obtain ⟨-, hafter⟩ | ⟨-, rfl⟩ := keywords?_eq_ok h
  · exact ⟨ks, hafter⟩
  · exact .refl _

theorem Skips.oneOf? {ks : List Keyword} {k : Option Keyword}
    (h : Parser.oneOf? ks ts = .ok (k, rest)) : Skips ts rest := by
  unfold Parser.oneOf? at h
  split at h
  · split at h
    · next k' hk =>
      split at h
      · obtain ⟨rfl, rfl⟩ := Prod.mk.inj (Except.ok.inj h)
        exact ⟨[k'], by rw [afterKeywords, if_pos hk]; rfl⟩
      · obtain ⟨rfl, rfl⟩ := Prod.mk.inj (Except.ok.inj h)
        exact .refl _
    · obtain ⟨rfl, rfl⟩ := Prod.mk.inj (Except.ok.inj h)
      exact .refl _
  · obtain ⟨rfl, rfl⟩ := Prod.mk.inj (Except.ok.inj h)
    exact .refl _

end

end GeoLayers.Sql.Parser
