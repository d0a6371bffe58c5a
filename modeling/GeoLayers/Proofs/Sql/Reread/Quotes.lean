import GeoLayers.Sql.Lexer
import GeoLayers.Sql.Printer

/-!
Reading a text between quotes again. The reader takes two quotes in a row for one. A body that is
written with some of its quotes not doubled reads as another body, because every quote that is
missing shifts what the reader pairs up; so a body reads as itself only when all its quotes are
written twice.
-/

namespace GeoLayers.Sql

/-- A body with every quote doubled. -/
def doubled (quote : Char) (body : List Char) : List Char :=
  body.flatMap fun c => if c = quote then [quote, quote] else [c]

@[simp] theorem doubled_nil (quote : Char) : doubled quote [] = [] := rfl

@[simp] theorem doubled_quote (quote : Char) (body : List Char) :
    doubled quote (quote :: body) = quote :: quote :: doubled quote body := by
  simp [doubled]

theorem doubled_of_ne {quote c : Char} (body : List Char) (h : c ≠ quote) :
    doubled quote (c :: body) = c :: doubled quote body := by
  simp [doubled, h]

theorem doubled_eq_self_iff {quote : Char} {body : List Char} :
    doubled quote body = body ↔ quote ∉ body := by
  constructor
  · intro h hmem
    have hlength : (doubled quote body).length = body.length + body.count quote := by
      clear h hmem
      induction body with
      | nil => rfl
      | cons c body ih =>
          by_cases hc : c = quote
          · subst hc
            simp only [doubled_quote, List.length_cons, List.count_cons_self, ih]
            omega
          · simp only [doubled_of_ne body hc, List.length_cons, List.count_cons_of_ne hc, ih]
            omega
    have hcount := List.count_pos_iff.2 hmem
    rw [h] at hlength
    omega
  · intro h
    induction body with
    | nil => rfl
    | cons c body ih =>
        simp only [List.mem_cons, not_or] at h
        rw [doubled_of_ne body (Ne.symm h.1), ih h.2]

/-- Whether no quote of a body stands after a backslash or after another quote. `before` is the
character before the body. -/
def quotesStandAlone (quote before : Char) : List Char → Bool
  | [] => true
  | c :: rest =>
    (c != quote || (before != '\\' && before != quote)) && quotesStandAlone quote c rest

/-- A body with each quote written once or twice. -/
inductive Thinned (quote : Char) : List Char → List Char → Prop
  | nil : Thinned quote [] []
  | other {c : Char} {body written : List Char} (hc : c ≠ quote) (h : Thinned quote body written) :
      Thinned quote (c :: body) (c :: written)
  | once {body written : List Char} (h : Thinned quote body written) :
      Thinned quote (quote :: body) (quote :: written)
  | twice {body written : List Char} (h : Thinned quote body written) :
      Thinned quote (quote :: body) (quote :: quote :: written)

theorem Thinned.self (quote : Char) (body : List Char) : Thinned quote body body := by
  induction body with
  | nil => exact .nil
  | cons c body ih =>
      by_cases hc : c = quote
      · exact hc ▸ ih.once
      · exact ih.other hc

theorem Thinned.doubleQuotes (quote before : Char) (body : List Char) :
    Thinned quote body (doubleQuotes quote before body) := by
  fun_induction Sql.doubleQuotes quote before body with
  | case1 => exact .nil
  | case2 before c rest hc hbefore ih =>
      obtain rfl := beq_iff_eq.1 hc
      exact ih.once
  | case3 before c hc hbefore c' rest hc' ih =>
      obtain rfl := beq_iff_eq.1 hc
      obtain rfl := beq_iff_eq.1 hc'
      exact ih.once.once
  | case4 before c hc hbefore c' rest hc' ih =>
      obtain rfl := beq_iff_eq.1 hc
      exact ih.twice
  | case5 before c hc hbefore =>
      obtain rfl := beq_iff_eq.1 hc
      exact Thinned.nil.twice
  | case6 before c rest hc ih => exact ih.other (by simpa using hc)

theorem Thinned.length_le {quote : Char} {body written : List Char}
    (h : Thinned quote body written) : written.length ≤ (doubled quote body).length := by
  induction h with
  | nil => simp
  | other hc _ ih => simpa [doubled_of_ne _ hc] using ih
  | once _ ih =>
      simp only [doubled_quote, List.length_cons]
      omega
  | twice _ ih =>
      simp only [doubled_quote, List.length_cons]
      omega

/-- The printer doubles all quotes of a body just when none of them looks escaped to it. -/
theorem doubleQuotes_eq_doubled_iff {quote before : Char} {body : List Char}
    (hquote : quote ≠ '\\') (hbefore : before ≠ quote ∨ body.head? ≠ some quote) :
    doubleQuotes quote before body = doubled quote body ↔
      quotesStandAlone quote before body = true := by
  fun_induction doubleQuotes quote before body with
  | case1 => simp [quotesStandAlone]
  | case2 before c rest hc hslash ih =>
      obtain rfl := beq_iff_eq.1 hc
      obtain rfl := beq_iff_eq.1 hslash
      have hle := (Thinned.doubleQuotes c '\\' rest).length_le
      simp only [doubled_quote, quotesStandAlone, bne_self_eq_false, Bool.false_and, Bool.or_false,
        iff_false, List.cons.injEq, true_and, Bool.false_eq_true]
      intro h
      rw [h] at hle
      simp only [List.length_cons] at hle
      omega
  | case3 before c hc hslash c' rest hc' ih =>
      obtain rfl := beq_iff_eq.1 hc
      obtain rfl := beq_iff_eq.1 hc'
      have hle := (Thinned.doubleQuotes c' c' rest).length_le
      simp only [doubled_quote, quotesStandAlone, bne_self_eq_false, Bool.and_false, Bool.or_false,
        Bool.false_and, iff_false, List.cons.injEq, true_and, Bool.false_eq_true]
      intro h
      rw [h] at hle
      simp only [List.length_cons] at hle
      omega
  | case4 before c hc hslash c' rest hc' ih =>
      obtain rfl := beq_iff_eq.1 hc
      have hne : c' ≠ c := by simpa using hc'
      have hb : before ≠ c := by simpa using hbefore
      rw [doubled_quote, quotesStandAlone]
      simp only [List.cons.injEq, true_and, bne_self_eq_false, Bool.false_or, Bool.and_eq_true,
        bne_iff_ne, ne_eq, hb, not_false_eq_true, and_true]
      rw [ih (.inr (by simpa using hne))]
      simp only [beq_iff_eq] at hslash
      simp [hslash]
  | case5 before c hc hslash =>
      obtain rfl := beq_iff_eq.1 hc
      simp only [beq_iff_eq] at hslash
      have hb : before ≠ c := by simpa using hbefore
      simp [quotesStandAlone, hslash, hb]
  | case6 before c rest hc ih =>
      have hne : c ≠ quote := by simpa using hc
      rw [doubled_of_ne rest hne, List.cons.injEq, and_iff_right rfl, ih (.inl hne)]
      simp [quotesStandAlone, hne]

namespace Scan

theorem quotedBody_of_ne {quote c : Char} (cs : List Char) (h : c ≠ quote) :
    quotedBody quote (c :: cs) = (quotedBody quote cs).map fun r => (c :: r.1, r.2) := by
  rw [quotedBody.eq_def]
  simp [h]

theorem quotedBody_pair (quote : Char) (cs : List Char) :
    quotedBody quote (quote :: quote :: cs) =
      (quotedBody quote cs).map fun r => (quote :: r.1, r.2) := by
  rw [quotedBody]
  simp

theorem quotedBody_end {quote : Char} {cs : List Char} (h : cs.head? ≠ some quote) :
    quotedBody quote (quote :: cs) = some ([], cs) := by
  cases cs with
  | nil => simp [quotedBody]
  | cons c cs =>
      have hc : c ≠ quote := by simpa using h
      simp [quotedBody, hc]

/-- A body with its quotes doubled reads as itself. -/
theorem quotedBody_doubled {quote : Char} {after : List Char} (hafter : after.head? ≠ some quote)
    (body : List Char) :
    quotedBody quote (doubled quote body ++ quote :: after) = some (body, after) := by
  induction body with
  | nil => exact quotedBody_end hafter
  | cons c body ih =>
      by_cases hc : c = quote
      · subst hc
        rw [doubled_quote, List.cons_append, List.cons_append, quotedBody_pair, ih]
        rfl
      · rw [doubled_of_ne body hc, List.cons_append, quotedBody_of_ne _ hc, ih]
        rfl

theorem map_cons_eq_some {c c' : Char} {found : Option (List Char × List Char)}
    {body rest : List Char} :
    (found.map fun r => (c :: r.1, r.2)) = some (c' :: body, rest) ↔
      c = c' ∧ found = some (body, rest) := by
  cases found with
  | none => simp
  | some r => simp [Prod.ext_iff, and_assoc]

theorem quotedBody_pair_eq_some {quote : Char} {cs body rest : List Char} :
    quotedBody quote (quote :: quote :: cs) = some (quote :: body, rest) ↔
      quotedBody quote cs = some (body, rest) := by
  rw [quotedBody_pair, map_cons_eq_some]
  simp

/-- What is read starts with a quote, or ends at once, only where a quote stands. -/
theorem head_of_quotedBody {quote : Char} {cs body rest : List Char}
    (hbody : body = [] ∨ body.head? = some quote) (h : quotedBody quote cs = some (body, rest)) :
    cs.head? = some quote := by
  cases cs with
  | nil => cases h
  | cons c cs =>
      by_cases hc : c = quote
      · exact congrArg some hc
      · rw [quotedBody_of_ne cs hc] at h
        obtain ⟨r, -, hr⟩ := Option.map_eq_some_iff.1 h
        obtain ⟨rfl, -⟩ := Prod.mk.inj hr
        simp [hc] at hbody

/-- Once the reader has more quotes than the body, it stays ahead: the quotes that it has too many
have to come out of what follows, and then it has others too many. -/
theorem quotedBody_ne_ahead {quote : Char} {after : List Char} (hafter : after.head? ≠ some quote)
    (n : Nat) {body written rest : List Char} (h : Thinned quote body written) :
    quotedBody quote (written ++ quote :: after) ≠
      some (quote :: (List.replicate n quote ++ body), rest) := by
  have hmoved (m : Nat) (ahead : List Char) :
      List.replicate m quote ++ quote :: ahead = quote :: (List.replicate m quote ++ ahead) := by
    rw [← List.cons_append, ← List.replicate_succ, List.replicate_succ', List.append_assoc,
      List.singleton_append]
  intro hread
  cases h with
  | nil =>
      rw [List.nil_append, quotedBody_end hafter] at hread
      cases hread
  | other hc h =>
      rw [List.cons_append, quotedBody_of_ne _ hc, map_cons_eq_some] at hread
      exact hc hread.1
  | twice h =>
      rw [hmoved] at hread
      exact quotedBody_ne_ahead hafter n h (quotedBody_pair_eq_some.1 hread)
  | once h =>
      rw [hmoved] at hread
      cases h with
      | nil => exact hafter (head_of_quotedBody (.inr rfl) (quotedBody_pair_eq_some.1 hread))
      | other hc h =>
          rw [List.cons_append, List.cons_append, quotedBody_end (by simpa using hc)] at hread
          cases hread
      | once h =>
          rw [hmoved] at hread
          exact quotedBody_ne_ahead hafter (n + 1) h (quotedBody_pair_eq_some.1 hread)
      | twice h => exact quotedBody_ne_ahead hafter n h.once (quotedBody_pair_eq_some.1 hread)
termination_by body.length

/-- A body that reads as itself is written with all its quotes doubled. -/
theorem eq_doubled_of_quotedBody {quote : Char} {after body written rest : List Char}
    (hafter : after.head? ≠ some quote) (h : Thinned quote body written)
    (hread : quotedBody quote (written ++ quote :: after) = some (body, rest)) :
    written = doubled quote body := by
  cases h with
  | nil => rfl
  | other hc h =>
      rw [List.cons_append, quotedBody_of_ne _ hc, map_cons_eq_some] at hread
      rw [doubled_of_ne _ hc, eq_doubled_of_quotedBody hafter h hread.2]
  | twice h =>
      rw [doubled_quote, eq_doubled_of_quotedBody hafter h (quotedBody_pair_eq_some.1 hread)]
  | once h =>
      cases h with
      | nil => exact absurd (head_of_quotedBody (.inl rfl) (quotedBody_pair_eq_some.1 hread)) hafter
      | other hc h =>
          rw [List.cons_append, List.cons_append, quotedBody_end (by simpa using hc)] at hread
          cases hread
      | once h => exact absurd (quotedBody_pair_eq_some.1 hread) (quotedBody_ne_ahead hafter 0 h)
      | twice h =>
          have htail := eq_doubled_of_quotedBody hafter h.once (quotedBody_pair_eq_some.1 hread)
          rw [doubled_quote, htail]
termination_by body.length

end Scan

end GeoLayers.Sql
