import GeoLayers.Where
import GeoLayers.Proofs.Sql.Nesting.Query
import GeoLayers.Proofs.Sql.Traversal

/-!
What it means that a clause passes the check: the text is one expression without the words of
another clause, without placeholders and without the nested queries that are looked for, its names
pass the check of names, and the condition is the expression with its names qualified.
-/

namespace GeoLayers.Where

open Sql (Expr Form)

theorem parse_eq_ok {text : String} {e : Expr} (h : parse text = .ok e) :
    ∃ tokens rest, Sql.tokenize text = .ok tokens ∧ tokens.findSome? tokenFault? = none ∧
      Sql.Parser.condition tokens = .ok ((e, .plain), rest) ∧
      e.anyForm Form.isNestedQuery = false := by
  unfold parse at h
  cases htokens : Sql.tokenize text with
  | error fault => simp [htokens] at h
  | ok tokens =>
      simp only [htokens] at h
      cases hfault : tokens.findSome? tokenFault? with
      | some fault => simp [hfault] at h
      | none =>
          simp only [hfault] at h
          cases hrun : Sql.Parser.condition tokens with
          | error fault => simp [hrun] at h
          | ok r =>
              obtain ⟨⟨e', ending⟩, rest⟩ := r
              simp only [hrun] at h
              cases ending with
              | setOperation => simp at h
              | plain =>
                  by_cases hnested : e'.anyForm Form.isNestedQuery = true
                  · simp [hnested] at h
                  · simp only [reduceCtorEq, if_false, hnested] at h
                    obtain rfl := Except.ok.inj h
                    exact ⟨tokens, rest, rfl, hfault, hrun, by simpa using hnested⟩

/-- An expression that is read is no query, and queries stand in it only where they may. -/
theorem proper_of_parse {text : String} {e : Expr} (h : parse text = .ok e) : e.Proper := by
  obtain ⟨tokens, rest, -, -, hrun, -⟩ := parse_eq_ok h
  exact Sql.Parser.condition_places tokens _ rest hrun

theorem check_eq_some {catalog : Catalog} {includeRelated : Bool} {text : String} {w : Where}
    (h : check catalog includeRelated text = .ok (some w)) :
    ∃ e, parse text = .ok e ∧ catalog.checkNames (namesIn e) includeRelated = .ok () ∧
      w = ⟨namesIn e, qualify e⟩ := by
  unfold check at h
  split at h
  · cases h
  · split at h
    · cases h
    · next e hparse =>
      dsimp only at h
      cases hnames : catalog.checkNames (namesIn e) includeRelated with
      | error fault =>
          rw [hnames] at h
          cases h
      | ok _ =>
          rw [hnames] at h
          have hw : some (⟨namesIn e, qualify e⟩ : Where) = some w := Except.ok.inj h
          exact ⟨e, hparse, hnames, (Option.some.inj hw).symm⟩

/-- Qualifying the names of an expression leaves its forms as they are. -/
theorem anyForm_qualify (test : Sql.Form → Bool) (e : Sql.Expr) :
    (qualify e).anyForm test = e.anyForm test :=
  Sql.Expr.anyForm_mapNames (fun _ => rfl) (fun _ => rfl) e

/-- Whether a clause passes the check and its condition satisfies a test. -/
def passesWith (catalog : Catalog) (includeRelated : Bool) (text : String) (test : Where → Bool) :
    Bool :=
  match check catalog includeRelated text with
  | .ok (some w) => test w
  | _ => false

theorem exists_of_passesWith (catalog : Catalog) (includeRelated : Bool) (text : String)
    (test : Where → Bool) (h : passesWith catalog includeRelated text test = true) :
    ∃ w, check catalog includeRelated text = .ok (some w) ∧ test w = true := by
  unfold passesWith at h
  split at h
  · next w hcheck => exact ⟨w, hcheck, h⟩
  · cases h

/-- The columns of a table of wells with the samples taken from them. -/
def wells : Catalog where
  fields := [.ofColumn "site_id" "integer" false, .ofColumn "name" "text" true,
    .ofColumn "depth" "double precision" true]
  related := [.ofColumns ⟨"samples", 0, "site_id", "site_id", "db_samples"⟩
    [.ofColumn "site_id" "integer" true, .ofColumn "ph" "double precision" true]]

end GeoLayers.Where
