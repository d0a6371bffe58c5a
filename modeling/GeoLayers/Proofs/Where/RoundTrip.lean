import GeoLayers.Proofs.Sql.Reread.Genuine
import GeoLayers.Proofs.Sql.Reread.Inversion
import GeoLayers.Proofs.Sql.Reread.Operators
import GeoLayers.Proofs.Sql.Reread.Spacing
import GeoLayers.Proofs.Where.Acceptance

/-!
Whether the text of a condition reads back as the condition. For a plain condition whose pieces
stand apart this is decided by two things alone: whether every text and every name in it reads as
itself between its quotes, and whether the qualified condition is nested no deeper than is allowed.
-/

namespace GeoLayers.Sql

namespace Expr

/-- The text of a legible condition has the tokens of the condition. -/
theorem tokenize_render {e : Expr} (hplain : e.isPlain = true) (hspaced : e.isSpaced = true)
    (hnames : ∀ name ∈ e.names, name.quote = .double) (hlegible : ∀ t ∈ e.tokens, t.legible = true) :
    tokenize e.render = .ok e.tokens := by
  have hfit : fitAll none e.pieces = true := fits_pieces hplain hspaced none rfl
  have hall := Scan.all_printed (List.forall_mem_map.1 hlegible) hfit e.render.length false
  rw [tokenize, toList_render hplain hnames]
  refine hall (Nat.le_of_eq ?_)
  rw [← toList_render hplain hnames, String.length_toList]

/-- A condition whose texts and names are found in its text is legible. -/
theorem legible_of_tokenize {e : Expr} {ts : List Token} (hplain : e.isPlain = true)
    (hspaced : e.isSpaced = true) (hnames : ∀ name ∈ e.names, name.quote = .double)
    (h : tokenize e.render = .ok ts) (hmarks : marksOf e.tokens <+: marksOf ts) :
    ∀ t ∈ e.tokens, t.legible = true := by
  have hfit : fitAll none e.pieces = true := fits_pieces hplain hspaced none rfl
  rw [tokenize, toList_render hplain hnames] at h
  exact List.forall_mem_map.2 (Scan.legible_of_all hfit _ _ _ h hmarks)

/-- The tokens of a plain condition that fit together are genuine. -/
theorem isGenuine_tokens {e : Expr} (hplain : e.isPlain = true) (hspaced : e.isSpaced = true) :
    ∀ t ∈ e.tokens, t.isGenuine = true :=
  List.forall_mem_map.2 (isGenuine_of_fitAll (fits_pieces hplain hspaced none rfl))

end Expr

namespace Parser

/-- A condition starts with an expression that is read on the outermost level. -/
theorem expr_of_condition {ts rest : List Token} {e : Expr} {ending : Ending}
    (h : condition ts = .ok ((e, ending), rest)) :
    ∃ mid, (grammar conditionLevels).expr 0 ts = .ok (e, mid) := by
  obtain ⟨e', mid, hexpr, h⟩ := bind_eq_ok h
  obtain ⟨clauses, mid₁, -, h⟩ := bind_eq_ok h
  obtain ⟨more, mid₂, -, h⟩ := bind_eq_ok h
  obtain ⟨locks, mid₃, -, h⟩ := bind_eq_ok h
  obtain ⟨t, mid₄, -, h⟩ := bind_eq_ok h
  have heq : e' = e := by
    dsimp only at h
    split at h
    · exact (Prod.mk.inj (pure_eq_ok h).1).1
    · split at h
      · exact (Prod.mk.inj (pure_eq_ok h).1).1
      · cases h
  exact ⟨mid, heq ▸ hexpr⟩

/-- An expression up to the end is a condition. -/
theorem condition_of_expr {ts : List Token} {e : Expr}
    (h : (grammar conditionLevels).expr 0 ts = .ok (e, [])) :
    condition ts = .ok ((e, .plain), []) := by
  rw [condition, bind_run h]
  rfl

theorem trails_nil : Trails [] := ⟨nofun, nofun⟩

end Parser

end GeoLayers.Sql

namespace GeoLayers.Where

open Sql (Expr Form Token marksOf)
open Sql.Parser (Derives grammar conditionLevels)

theorem parse_of_expr {text : String} {tokens : List Token} {e : Expr}
    (htokens : Sql.tokenize text = .ok tokens) (hfault : tokens.findSome? tokenFault? = none)
    (hexpr : (grammar conditionLevels).expr 0 tokens = .ok (e, []))
    (hnested : e.anyForm Form.isNestedQuery = false) : parse text = .ok e := by
  simp only [parse, htokens, hfault, Sql.Parser.condition_of_expr hexpr, reduceCtorEq, if_false,
    hnested, Bool.false_eq_true]

/-- A plain expression that a text is read as is read by the rules. -/
theorem derives_of_parse {text : String} {e : Expr} (h : parse text = .ok e)
    (hplain : e.isPlain = true) :
    ∃ tokens rest, Sql.tokenize text = .ok tokens ∧ Derives conditionLevels 0 tokens e rest := by
  obtain ⟨tokens, after, htokens, -, hrun, -⟩ := parse_eq_ok h
  obtain ⟨rest, hexpr⟩ := Sql.Parser.expr_of_condition hrun
  exact ⟨tokens, rest, htokens, (Sql.Parser.grammar_derives conditionLevels).plain hexpr hplain⟩

theorem no_fault_of_calm {tokens : List Token} (h : tokens.all Token.isCalm = true) :
    tokens.findSome? tokenFault? = none := by
  refine List.findSome?_eq_none_iff.2 fun t ht => ?_
  have hcalm := List.all_eq_true.1 h t ht
  rw [Token.isCalm, Bool.and_eq_true, Option.isNone_iff_eq_none] at hcalm
  exact hcalm.2

/-- The constants and names of a plain qualified condition are those of its tokens. The tokens are
read again on as many levels as the condition is nested, and reading keeps them. -/
theorem marks_qualify {text : String} {e : Expr} (h : parse text = .ok e)
    (hplain : e.isPlain = true) (hspaced : (qualify e).isSpaced = true) :
    marksOf (qualify e).tokens = (qualify e).marks := by
  obtain ⟨tokens, rest, -, hderives⟩ := derives_of_parse h hplain
  have hqualified := (Sql.isPlain_qualify e).trans hplain
  have hrun := (Sql.Parser.derives_replays conditionLevels).run hderives Nat.le.refl
    Sql.Parser.trails_nil (Nat.zero_le _)
  have hagain := (Sql.Parser.grammar_derives _).plain hrun hqualified
  rw [List.append_nil] at hagain
  have hfaithful := (Sql.Parser.derives_faithful _).faithful hagain
    (Expr.isGenuine_tokens hqualified hspaced)
  simpa [marksOf] using hfaithful.marks

/-- The text of a plain condition whose pieces stand apart reads back as the condition exactly if its
texts and names read as themselves between their quotes and it is nested no deeper than allowed. -/
theorem reads_back_iff {catalog : Catalog} {includeRelated : Bool} {text : String} {w : Where}
    (hcheck : check catalog includeRelated text = .ok (some w))
    (hplain : w.condition.isPlain = true) (hspaced : w.condition.isSpaced = true) :
    parse w.text = .ok w.condition ↔
      (∀ t ∈ w.condition.tokens, t.legible = true) ∧ w.condition.depth ≤ conditionLevels := by
  obtain ⟨e, hparse, -, rfl⟩ := check_eq_some hcheck
  have he : e.isPlain = true := (Sql.isPlain_qualify e).symm.trans hplain
  have hnames := Sql.names_qualify e
  constructor
  -- Reading keeps constants and names, and the first one that is not legible is read as another.
  · intro hback
    obtain ⟨tokens, rest, htokens, hderives⟩ := derives_of_parse hback hplain
    have hfaithful := (Sql.Parser.derives_faithful _).faithful hderives
      (Sql.Scan.isGenuine_all htokens)
    refine ⟨Expr.legible_of_tokenize hplain hspaced hnames htokens ?_, hfaithful.depth⟩
    rw [marks_qualify hparse he hspaced, hfaithful.marks]
    exact List.prefix_append _ _
  -- The tokens of the text are those of the condition, and the rules that read the clause read them.
  · rintro ⟨hlegible, hdepth⟩
    obtain ⟨tokens, rest, -, hderives⟩ := derives_of_parse hparse he
    have hrun := (Sql.Parser.derives_replays conditionLevels).run hderives hdepth
      Sql.Parser.trails_nil (Nat.zero_le _)
    rw [List.append_nil] at hrun
    obtain ⟨-, -, -, -, -, hnested⟩ := parse_eq_ok hparse
    exact parse_of_expr (Expr.tokenize_render hplain hspaced hnames hlegible)
      (no_fault_of_calm (Expr.tokens_calm hplain)) hrun
      ((anyForm_qualify _ e).trans hnested)

/-- Some texts with quotes, a sign, a pattern and a null test read back. -/
theorem reads_back_wells : ∃ w,
    check wells false "name = 'it''s' AND (depth > -10.5 OR name NOT LIKE 'a%') AND depth IS NOT NULL" =
      .ok (some w) ∧ w.condition.isPlain = true ∧ w.condition.isSpaced = true ∧
        parse w.text = .ok w.condition := by
  obtain ⟨w, hcheck, htest⟩ := exists_of_passesWith wells false
    "name = 'it''s' AND (depth > -10.5 OR name NOT LIKE 'a%') AND depth IS NOT NULL"
    (fun w => w.condition.isPlain && w.condition.isSpaced &&
      w.condition.tokens.all Token.legible && decide (w.condition.depth ≤ conditionLevels))
    (by decide +kernel)
  simp only [Bool.and_eq_true, List.all_eq_true, decide_eq_true_eq] at htest
  obtain ⟨⟨⟨hplain, hspaced⟩, hlegible⟩, hdepth⟩ := htest
  exact ⟨w, hcheck, hplain, hspaced,
    (reads_back_iff hcheck hplain hspaced).2 ⟨hlegible, hdepth⟩⟩

/-- A quote after a backslash ends the text too early: what follows it in the text becomes a part of
the condition. -/
theorem escaped_quote_ends_text : ∃ w e,
    check wells false "name = 'a\\'' OR TRUE --'" = .ok (some w) ∧
      w.text = "\"source\".\"name\" = 'a\\' OR TRUE --'" ∧ parse w.text = .ok e ∧
      w.condition.anyForm (· = .binary .or) = false ∧ e.anyForm (· = .binary .or) = true := by
  obtain ⟨w, hcheck, htest⟩ := exists_of_passesWith wells false "name = 'a\\'' OR TRUE --'"
    (fun w => w.text == "\"source\".\"name\" = 'a\\' OR TRUE --'" &&
      !w.condition.anyForm (· = .binary .or)) (by decide +kernel)
  simp only [Bool.and_eq_true, Bool.not_eq_true', beq_iff_eq] at htest
  have hread : ∃ e, parse "\"source\".\"name\" = 'a\\' OR TRUE --'" = .ok e ∧
      e.anyForm (· = .binary .or) = true := by
    have hok : (match parse "\"source\".\"name\" = 'a\\' OR TRUE --'" with
        | .ok e => e.anyForm (· = .binary .or)
        | .error _ => false) = true := by decide +kernel
    split at hok
    · next e hparse => exact ⟨e, hparse, hok⟩
    · cases hok
  obtain ⟨e, hparse, hor⟩ := hread
  exact ⟨w, e, hcheck, htest.1, htest.1 ▸ hparse, htest.2, hor⟩

end GeoLayers.Where
