import GeoLayers.Proofs.Sql.Endings
import GeoLayers.Proofs.Sql.Reread.Numerals
import GeoLayers.Proofs.Sql.Reread.Spacing
import GeoLayers.Proofs.Where.Acceptance

/-!
Whether a clause is used as a whole. A clause is checked behind the words of a selection of the
constant one, and only the condition of that selection is kept. What a query may have behind its
condition is refused by a list of keywords, and the list leaves some of them out: the rest of the
clause is dropped exactly if one of these stands behind the condition.
-/

namespace GeoLayers.Sql

namespace Scan

/-- More steps than are needed change nothing. -/
theorem all_succ {fuel : Nat} {afterWord : Bool} {cs : List Char} {ts : List Token}
    (h : all fuel afterWord cs = .ok ts) : all (fuel + 1) afterWord cs = .ok ts := by
  induction fuel generalizing afterWord cs ts with
  | zero =>
      cases cs with
      | nil => exact h
      | cons c cs => cases h
  | succ fuel ih =>
      cases cs with
      | nil => exact h
      | cons c cs =>
          rw [all] at h ⊢
          split at h
          · cases h
          · exact ih h
          · next t rest _ =>
            dsimp only at h ⊢
            generalize hmore : all fuel _ rest = more at h
            cases more with
            | error fault => cases h
            | ok more =>
                rw [ih hmore]
                exact h

theorem all_add {fuel : Nat} {afterWord : Bool} {cs : List Char} {ts : List Token}
    (h : all fuel afterWord cs = .ok ts) (n : Nat) : all (fuel + n) afterWord cs = .ok ts := by
  induction n with
  | zero => exact h
  | succ n ih => exact all_succ ih

/-- A token with a blank behind it is read before everything that follows. -/
theorem all_token {t : Token} {afterWord : Bool} {after : List Char}
    (h : step afterWord (t.printed ++ ' ' :: after) = .ok (some t, ' ' :: after)) (fuel : Nat) :
    all (fuel + 2) afterWord (t.printed ++ ' ' :: after) = (all fuel false after).map (t :: ·) := by
  obtain ⟨word, hall⟩ := all_of_step (fuel + 1) h
  rw [hall, all_blank]

end Scan

/-- The words in front of a clause. -/
def selectWord : Word := ⟨"SELECT", false, some .SELECT⟩
def whereWord : Word := ⟨"WHERE", false, some .WHERE⟩

/-- The tokens in front of a clause, `SELECT 1 WHERE`. -/
def wrapper : List Token := [.word selectWord, .number "1" false, .word whereWord]

/-- The tokens of a clause stay the same behind the words of a selection. -/
theorem tokenize_wrapped {text : String} {tokens : List Token} (h : tokenize text = .ok tokens) :
    tokenize ("SELECT 1 WHERE " ++ text) = .ok (wrapper ++ tokens) := by
  have hchars : ("SELECT 1 WHERE " ++ text).toList = (Token.word selectWord).printed ++ ' ' ::
      ((Token.number "1" false).printed ++ ' ' ::
        ((Token.word whereWord).printed ++ ' ' :: text.toList)) := by
    rw [String.toList_append]
    exact congrArg (· ++ text.toList) (by decide : "SELECT 1 WHERE ".toList =
      (Token.word selectWord).printed ++ ' ' :: ((Token.number "1" false).printed ++ ' ' ::
        ((Token.word whereWord).printed ++ [' '])))
  have hlength : ("SELECT 1 WHERE " ++ text).length = text.length + 9 + 2 + 2 + 2 := by
    rw [String.length_append, Nat.add_comm]
    rfl
  have hnumber (after : List Char) :
      Scan.step false ((Token.number "1" false).printed ++ ' ' :: after) =
        .ok (some (.number "1" false), ' ' :: after) :=
    Scan.step_number false (by decide +kernel) (by rfl)
  rw [tokenize, hchars, hlength,
    Scan.all_token (Scan.step_spelled _ rfl (by decide +kernel) (by rfl)), Scan.all_token (hnumber _),
    Scan.all_token (Scan.step_spelled _ rfl (by decide +kernel) (by rfl)), Scan.all_add h]
  rfl

namespace Parser

variable {g : Grammar}

/-- The constant one. -/
def one : Expr := .form (.literal (.number "1" false)) []

/-- The constant in front of a clause is read as such. -/
theorem expr_one (tokens : List Token) :
    exprAbove g 0 (.number "1" false :: .word whereWord :: tokens) =
      .ok (one, .word whereWord :: tokens) := rfl

/-- A selection of the constant one with a condition, and what stands behind it. -/
def selectionOf (e : Expr) (rows : List Piece) (tail : String) : Expr :=
  Piece.toExpr ([.text "SELECT", .text " ", .operand one, .text " WHERE ", .operand e] ++ rows ++
    [.text tail])

theorem select_wrapped {tokens mid rest : List Token} {e : Expr} {rows : List Piece}
    (hone : g.expr 0 (.number "1" false :: .word whereWord :: tokens) =
      .ok (one, .word whereWord :: tokens))
    (hexpr : g.expr 0 tokens = .ok (e, mid)) (hrows : rowClauses g mid = .ok (rows, rest)) :
    select g (wrapper ++ tokens) =
      .ok ([.text "SELECT", .text " ", .operand one, .text " WHERE ", .operand e] ++ rows, rest) := by
  have hitem : item g (.number "1" false :: .word whereWord :: tokens) =
      .ok ([.operand one], .word whereWord :: tokens) := by
    rw [item, bind_run rfl]
    dsimp only
    rw [bind_run hone]
    rfl
  have hitems : commaSeparated (item g) (.number "1" false :: .word whereWord :: tokens) =
      .ok ([[.operand one]], .word whereWord :: tokens) := by
    rw [commaSeparated, commaLoop, bind_run hitem]
    rfl
  have hselect : keyword .SELECT (wrapper ++ tokens) =
      .ok ((), .number "1" false :: .word whereWord :: tokens) := rfl
  have hpeek : peekKeyword? (.number "1" false :: .word whereWord :: tokens) =
      .ok (none, .number "1" false :: .word whereWord :: tokens) := rfl
  have hfrom : keyword? .FROM (.word whereWord :: tokens) = .ok (false, .word whereWord :: tokens) :=
    rfl
  have hwhere : keyword? .WHERE (.word whereWord :: tokens) = .ok (true, tokens) := rfl
  rw [select, bind_run hselect, bind_run rfl, bind_run hpeek]
  dsimp only
  rw [bind_run hitems, pure_bind, bind_run hfrom, if_neg Bool.false_ne_true, pure_bind,
    bind_run hwhere, if_pos rfl, bind_run hexpr, pure_bind, bind_run hrows]
  rfl

/-- The query that checks a clause: it reads the condition with what stands behind it, and no set
operation. -/
theorem queryExpr_wrapped {tokens mid mid₁ rest : List Token} {e : Expr} {rows : List Piece}
    {tail : String}
    (hone : g.expr 0 (.number "1" false :: .word whereWord :: tokens) =
      .ok (one, .word whereWord :: tokens))
    (hexpr : g.expr 0 tokens = .ok (e, mid)) (hrows : rowClauses g mid = .ok (rows, mid₁))
    (hdifferences : differences g (mid₁.length + 1) mid₁ = .ok ([], mid₁))
    (htail : lockClauses mid₁ = .ok (tail, rest)) :
    queryExpr g (wrapper ++ tokens) = .ok (selectionOf e rows tail, rest) := by
  have hbody : body g (wrapper ++ tokens) =
      .ok ([.text "SELECT", .text " ", .operand one, .text " WHERE ", .operand e] ++ rows, mid₁) := by
    have hpeek : peekKeyword? (wrapper ++ tokens) = .ok (some .SELECT, wrapper ++ tokens) := rfl
    have hsimple : simpleBody g (wrapper ++ tokens) = select g (wrapper ++ tokens) := by
      rw [simpleBody, bind_run hpeek]
    rw [body, bind_run (hsimple.trans (select_wrapped hone hexpr hrows)),
      bind_run (p := fun ts => differences g (ts.length + 1) ts) hdifferences, List.append_nil]
    rfl
  have hwith : keyword? .WITH (wrapper ++ tokens) = .ok (false, wrapper ++ tokens) := rfl
  rw [queryExpr, bind_run hwith, if_neg Bool.false_ne_true, pure_bind]
  dsimp only
  rw [bind_run hbody, bind_run htail]
  rfl

/-- What a condition is made of: an expression, clauses for rows, no set operation, locks, and then
the end or a word `END`. -/
theorem condition_eq_ok {ts rest : List Token} {e : Expr}
    (h : condition ts = .ok ((e, .plain), rest)) :
    ∃ mid rows mid₁ tail, (grammar conditionLevels).expr 0 ts = .ok (e, mid) ∧
      rowClauses (grammar conditionLevels) mid = .ok (rows, mid₁) ∧
      differences (grammar conditionLevels) (mid₁.length + 1) mid₁ = .ok ([], mid₁) ∧
      lockClauses mid₁ = .ok (tail, rest) ∧ (rest = [] ∨ frontKeyword? rest = some .END) := by
  obtain ⟨e', mid, hexpr, h₁⟩ := bind_eq_ok h
  obtain ⟨rows, mid₁, hrows, h₂⟩ := bind_eq_ok h₁
  obtain ⟨more, mid₂, hdifferences, h₃⟩ := bind_eq_ok h₂
  obtain ⟨tail, mid₃, htail, h₄⟩ := bind_eq_ok h₃
  obtain ⟨t, mid₄, hpeek, h₅⟩ := bind_eq_ok h₄
  obtain ⟨rfl, rfl⟩ := Prod.mk.inj (Except.ok.inj hpeek)
  have hend : (pure (e', if more.isEmpty then Ending.plain else .setOperation) :
      Parser (Expr × Ending)) mid₃ = .ok ((e, .plain), rest) ∧
        (mid₃ = [] ∨ frontKeyword? mid₃ = some .END) := by
    cases mid₃ with
    | nil => exact ⟨h₅, .inl rfl⟩
    | cons t mid₃ =>
        dsimp only [List.head?_cons] at h₅
        split at h₅
        · next hkeyword => exact ⟨h₅, .inr hkeyword⟩
        · cases h₅
  obtain ⟨hpure, hend⟩ := hend
  obtain ⟨hresult, rfl⟩ := pure_eq_ok hpure
  obtain ⟨rfl, hplain⟩ := Prod.mk.inj hresult
  have hmore : more = [] := by
    cases more with
    | nil => rfl
    | cons piece more => cases hplain
  subst hmore
  obtain rfl := differences_eq_nil hdifferences
  exact ⟨mid, rows, mid₂, tail, hexpr, hrows, hdifferences, htail, hend⟩

/-- The keywords of what may stand behind a condition and is not refused. -/
def unlistedKeywords : List Keyword := rowKeywords ++ [.FOR, .END]

/-- What stands behind a condition starts with one of these keywords. -/
theorem behind_eq_nil_iff {behind mid rest : List Token} {rows : List Piece} {tail : String}
    (hrows : rowClauses g behind = .ok (rows, mid)) (htail : lockClauses mid = .ok (tail, rest))
    (hrest : rest = [] ∨ frontKeyword? rest = some .END) :
    behind = [] ↔ ∀ k ∈ unlistedKeywords, frontKeyword? behind ≠ some k := by
  constructor
  · rintro rfl k -
    exact nofun
  · intro hnone
    rcases rowClauses_eq_ok hrows with ⟨-, rfl⟩ | ⟨-, k, hk, hfront⟩
    · rcases lockClauses_eq_ok htail with ⟨-, rfl⟩ | ⟨-, hfront⟩
      · exact hrest.resolve_right (hnone .END (by decide))
      · exact absurd hfront (hnone .FOR (by decide))
    · exact absurd hfront (hnone k (List.mem_append_left _ hk))

theorem texts_selectionOf (e : Expr) (rows : List Piece) (tail : String) :
    selectionOf e rows tail =
      .form (.query ("SELECT " :: " WHERE " :: Piece.texts (rows ++ [.text tail])))
        (one :: e :: Piece.operands (rows ++ [.text tail])) := by
  rfl

/-- A selection has nothing behind its condition exactly if neither clauses nor locks are there. -/
theorem selectionOf_eq_iff {e : Expr} {rows : List Piece} {tail : String}
    (hrows : rows = [] ∨ Piece.Marked rows) :
    selectionOf e rows tail = selectionOf e [] "" ↔ rows = [] ∧ tail = "" := by
  constructor
  · intro heq
    rw [texts_selectionOf, texts_selectionOf] at heq
    have htexts : Piece.texts (rows ++ [.text tail]) = [""] := by
      have hform := (Expr.form.inj heq).1
      rw [Form.query.injEq, List.cons.injEq, List.cons.injEq] at hform
      exact hform.2.2
    rcases hrows with rfl | hmarked
    · have htail : tail ++ "" = "" := (List.cons.inj htexts).1
      exact ⟨rfl, by simpa using htail⟩
    · exact absurd htexts (Piece.texts_ne_of_marked (hmarked.append _))
  · rintro ⟨rfl, rfl⟩
    rfl

/-- The query is the condition alone, and is read to the end, exactly if nothing stands behind the
condition. -/
theorem selection_alone_iff {behind mid rest : List Token} {e : Expr} {rows : List Piece}
    {tail : String} (hrows : rowClauses g behind = .ok (rows, mid))
    (htail : lockClauses mid = .ok (tail, rest)) :
    selectionOf e rows tail = selectionOf e [] "" ∧ rest = [] ↔ behind = [] := by
  constructor
  · rintro ⟨hquery, rfl⟩
    rcases rowClauses_eq_ok hrows with ⟨rfl, rfl⟩ | ⟨hmarked, -⟩
    · rcases lockClauses_eq_ok htail with ⟨rfl, hmid⟩ | ⟨hne, -⟩
      · exact hmid.symm
      · exact absurd ((selectionOf_eq_iff (.inl rfl)).1 hquery).2 hne
    · obtain ⟨rfl, -⟩ := (selectionOf_eq_iff (.inr hmarked)).1 hquery
      obtain ⟨s, more, hnil, -⟩ := hmarked
      cases hnil
  · rintro rfl
    have hrowless : rowClauses g [] = .ok ([], []) := rfl
    obtain ⟨rfl, rfl⟩ := Prod.mk.inj (Except.ok.inj (hrowless.symm.trans hrows))
    have hlockless : lockClauses [] = .ok ("", []) := rfl
    obtain ⟨rfl, rfl⟩ := Prod.mk.inj (Except.ok.inj (hlockless.symm.trans htail))
    exact ⟨rfl, rfl⟩

end Parser

end GeoLayers.Sql

namespace GeoLayers.Where

open Sql (Expr)
open Sql.Parser (grammar conditionLevels frontKeyword? selectionOf unlistedKeywords)

/-- The query that an accepted clause is checked in is one selection of the constant one with the
clause's expression for its condition; what may follow are clauses for rows, locks and a word `END`.
It is that selection alone, read to its end, exactly if the expression is the whole clause, and the
expression is the whole clause exactly if none of six keywords stands behind it. -/
theorem used_whole_iff {catalog : Catalog} {includeRelated : Bool} {text : String} {w : Where}
    (h : check catalog includeRelated text = .ok (some w)) :
    ∃ e tokens behind q rest, parse text = .ok e ∧ w.condition = qualify e ∧
      Sql.tokenize ("SELECT 1 WHERE " ++ text) = .ok (Sql.wrapper ++ tokens) ∧
      (grammar conditionLevels).expr 0 tokens = .ok (e, behind) ∧
      (grammar (conditionLevels + 1)).query (Sql.wrapper ++ tokens) = .ok (q, rest) ∧
      (∃ rows tail, q = selectionOf e rows tail) ∧
      (rest = [] ∨ frontKeyword? rest = some .END) ∧
      ((q = selectionOf e [] "" ∧ rest = []) ↔ behind = []) ∧
      (behind = [] ↔ ∀ k ∈ unlistedKeywords, frontKeyword? behind ≠ some k) := by
  obtain ⟨e, hparse, -, rfl⟩ := check_eq_some h
  obtain ⟨tokens, rest, htokens, -, hrun, -⟩ := parse_eq_ok hparse
  obtain ⟨behind, rows, mid, tail, hexpr, hrows, hdifferences, htail, hrest⟩ :=
    Sql.Parser.condition_eq_ok hrun
  have hquery : (grammar (conditionLevels + 1)).query (Sql.wrapper ++ tokens) =
      .ok (selectionOf e rows tail, rest) :=
    Sql.Parser.queryExpr_wrapped (Sql.Parser.expr_one tokens) hexpr hrows hdifferences htail
  exact ⟨e, tokens, behind, _, rest, hparse, rfl, Sql.tokenize_wrapped htokens, hexpr, hquery,
    ⟨rows, tail, rfl⟩, hrest, Sql.Parser.selection_alone_iff hrows htail,
    Sql.Parser.behind_eq_nil_iff hrows htail hrest⟩

/-- A comparison with nothing behind it is used as a whole. -/
theorem used_whole_depth : ∃ w e tokens q,
    check wells false "depth > 10.5" = .ok (some w) ∧ parse "depth > 10.5" = .ok e ∧
      Sql.tokenize ("SELECT 1 WHERE " ++ "depth > 10.5") = .ok (Sql.wrapper ++ tokens) ∧
      (grammar conditionLevels).expr 0 tokens = .ok (e, []) ∧
      (grammar (conditionLevels + 1)).query (Sql.wrapper ++ tokens) = .ok (q, []) ∧
      q = selectionOf e [] "" := by
  obtain ⟨w, hcheck, -⟩ := exists_of_passesWith wells false "depth > 10.5" (fun _ => true)
    (by decide +kernel)
  obtain ⟨e, tokens, behind, q, rest, hparse, -, htokens, hexpr, hquery, -, -, halone, -⟩ :=
    used_whole_iff hcheck
  have hrun : ((Sql.tokenize ("SELECT 1 WHERE " ++ "depth > 10.5")).toOption.bind fun ts =>
      ((grammar conditionLevels).expr 0 (ts.drop 3)).toOption.map Prod.snd) = some [] := by
    decide +kernel
  have hbehind : ((grammar conditionLevels).expr 0 tokens).toOption.map Prod.snd = some [] := by
    rw [htokens] at hrun
    exact hrun
  rw [hexpr] at hbehind
  obtain rfl : behind = [] := Option.some.inj hbehind
  obtain ⟨hq, rfl⟩ := halone.2 rfl
  exact ⟨w, e, tokens, q, hcheck, hparse, htokens, hexpr, hquery, hq⟩

/-- A lock behind a condition is read by the query that checks the clause, and the condition goes on
without it. -/
theorem lock_dropped : ∃ w e tokens q,
    check wells false "depth > 10.5 FOR UPDATE" = .ok (some w) ∧
      parse "depth > 10.5 FOR UPDATE" = .ok e ∧
      Sql.tokenize ("SELECT 1 WHERE " ++ "depth > 10.5 FOR UPDATE") = .ok tokens ∧
      (grammar (conditionLevels + 1)).query tokens = .ok (q, []) ∧ q ≠ selectionOf e [] "" ∧
      q.render = "SELECT 1 WHERE depth > 10.5 FOR UPDATE" ∧
      w.text = "\"source\".\"depth\" > 10.5" := by
  obtain ⟨w, hcheck, htext⟩ := exists_of_passesWith wells false "depth > 10.5 FOR UPDATE"
    (fun w => w.text == "\"source\".\"depth\" > 10.5") (by decide +kernel)
  rw [beq_iff_eq] at htext
  obtain ⟨e, hparse, -, -⟩ := check_eq_some hcheck
  have halone : (parse "depth > 10.5 FOR UPDATE").toOption.map
      (fun e => (selectionOf e [] "").render) = some "SELECT 1 WHERE depth > 10.5" := by
    decide +kernel
  rw [hparse] at halone
  have hrun : ((Sql.tokenize ("SELECT 1 WHERE " ++ "depth > 10.5 FOR UPDATE")).toOption.bind fun ts =>
      ((grammar (conditionLevels + 1)).query ts).toOption.map fun read => (read.1.render, read.2)) =
        some ("SELECT 1 WHERE depth > 10.5 FOR UPDATE", []) := by decide +kernel
  cases htokens : Sql.tokenize ("SELECT 1 WHERE " ++ "depth > 10.5 FOR UPDATE") with
  | error fault =>
      rw [htokens] at hrun
      cases hrun
  | ok tokens =>
      have hread : ((grammar (conditionLevels + 1)).query tokens).toOption.map
          (fun read => (read.1.render, read.2)) =
            some ("SELECT 1 WHERE depth > 10.5 FOR UPDATE", []) := by
        rw [htokens] at hrun
        exact hrun
      cases hquery : (grammar (conditionLevels + 1)).query tokens with
      | error fault =>
          rw [hquery] at hread
          cases hread
      | ok read =>
          obtain ⟨q, rest⟩ := read
          rw [hquery] at hread
          obtain ⟨hrender, rfl⟩ := Prod.mk.inj (Option.some.inj hread)
          have hne : q ≠ selectionOf e [] "" := by
            rintro rfl
            exact absurd ((Option.some.inj halone).symm.trans hrender) (by decide)
          exact ⟨w, e, tokens, q, hcheck, hparse, rfl, hquery, hne, hrender, htext⟩

end GeoLayers.Where
