import GeoLayers.Sql.Parser.Basic

/-!
What the results of a parser have in common. `Yields p P` says that every result of `p` satisfies
`P`, whatever tokens it reads; it says nothing about the tokens that `p` refuses. There is one
lemma for each way of putting parsers together, so that a property of results goes through a
grammar function by function.
-/

namespace GeoLayers.Sql.Parser

/-- Every result of a parser has a property. -/
def Yields {α : Type} (p : Parser α) (P : α → Prop) : Prop :=
  ∀ ts x rest, p ts = .ok (x, rest) → P x

namespace Yields

variable {α β : Type} {p : Parser α} {f : α → Parser β} {P : α → Prop} {Q : β → Prop}

theorem any (p : Parser α) : Yields p fun _ => True := fun _ _ _ _ => trivial

theorem pure {x : α} (hx : P x) : Yields (Pure.pure x : Parser α) P := by
  intro ts y rest h
  have hxy : (x, ts) = (y, rest) := Except.ok.inj h
  obtain ⟨rfl, rfl⟩ := Prod.mk.inj hxy
  exact hx

theorem fail : Yields (Parser.fail : Parser α) P := by
  intro ts x rest h
  cases h

theorem bind (hp : Yields p P) (hf : ∀ x, P x → Yields (f x) Q) : Yields (p >>= f) Q := by
  intro ts y rest h
  change (p ts >>= fun r => f r.1 r.2) = .ok (y, rest) at h
  cases hrun : p ts with
  | error fault =>
      rw [hrun] at h
      cases h
  | ok r =>
      rw [hrun] at h
      exact hf r.1 (hp ts r.1 r.2 hrun) r.2 y rest h

/-- A step whose result does not matter. -/
theorem step (hf : ∀ x, Yields (f x) Q) : Yields (p >>= f) Q :=
  bind (any p) fun x _ => hf x

theorem map {g : α → β} (hp : Yields p P) (hg : ∀ x, P x → Q (g x)) : Yields (g <$> p) Q :=
  bind hp fun x hx => pure (hg x hx)

/-- A parser that looks at the tokens before it starts. -/
theorem atTokens {q : List Token → Parser α} (h : ∀ ts, Yields (q ts) P) :
    Yields (fun ts => q ts ts) P :=
  fun ts x rest hx => h ts ts x rest hx

theorem ite {c : Prop} [Decidable c] {q : Parser α} (hp : c → Yields p P) (hq : ¬c → Yields q P) :
    Yields (if c then p else q) P := by
  split
  case isTrue hc => exact hp hc
  case isFalse hc => exact hq hc

theorem attempt (hp : Yields p P) : Yields (Parser.attempt p) fun found => ∀ x ∈ found, P x := by
  intro ts found rest h x hx
  simp only [Parser.attempt] at h
  cases hrun : p ts with
  | error fault =>
      cases fault with
      | tooDeep => simp [hrun] at h
      | unexpected =>
          simp only [hrun, Except.ok.injEq, Prod.mk.injEq] at h
          simp [← h.1] at hx
  | ok r =>
      obtain ⟨y, more⟩ := r
      simp only [hrun, Except.ok.injEq, Prod.mk.injEq] at h
      rw [← h.1, Option.mem_some_iff] at hx
      exact hx ▸ hp ts y more hrun

theorem whenever {c : Parser Bool} (hp : Yields p P) :
    Yields (Parser.whenever c p) fun found => ∀ x ∈ found, P x := by
  refine step fun there => ite (fun _ => ?_) fun _ => pure (by simp)
  exact map hp fun x hx y hy => by
    rw [Option.mem_some_iff] at hy
    exact hy ▸ hx

theorem commaLoop (hp : Yields p P) (fuel : Nat) :
    Yields (Parser.commaLoop p fuel) fun xs => ∀ x ∈ xs, P x := by
  induction fuel with
  | zero => exact fail
  | succ fuel ih =>
      refine bind hp fun x hx => step fun more => ite (fun _ => ?_) fun _ => pure (by simpa using hx)
      refine bind ih fun xs hxs => pure ?_
      simpa using ⟨hx, hxs⟩

theorem commaSeparated (hp : Yields p P) :
    Yields (Parser.commaSeparated p) fun xs => ∀ x ∈ xs, P x :=
  fun ts => commaLoop hp (ts.length + 1) ts

theorem bracketed (hp : Yields p P) : Yields (Parser.bracketed p) P :=
  step fun _ => bind hp fun _ hx => step fun _ => pure hx

end Yields

end GeoLayers.Sql.Parser
