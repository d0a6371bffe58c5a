import GeoLayers.Proofs.Where.Acceptance

/-!
Which accepted clauses have a query in them. The check looks for subqueries in brackets, `EXISTS`
and `IN`; the only other construct that takes a query is an array made of its rows, so a clause
that passes has a query in it, at any depth, exactly if it has such an array.
-/

namespace GeoLayers.Sql.Expr

/-- In an expression that is no query itself there is a query exactly if there is a construct that
takes one. -/
theorem Placed.anyForm_isQuery_iff {e : Expr} (h : e.Placed) (hproper : e.isQuery = false) :
    e.anyForm Form.isQuery = true ↔ e.anyForm Form.takesQuery = true := by
  induction h with
  | column => simp [anyForm]
  | path => simp [anyForm]
  | @plain head operands hquery htakes _ hoperands ih =>
      simp only [anyForm, hquery, htakes, Bool.false_or, anyFormIn_eq_any, List.any_eq_true]
      exact exists_congr fun e => and_congr_right fun he => ih e he (hoperands e he)
  | @takes head before q htakes _ _ _ hquery =>
      have hany : q.anyForm Form.isQuery = true := by
        cases q with
        | column name => cases hquery
        | path parts => cases hquery
        | form inner operands => simp [anyForm, show inner.isQuery = true from hquery]
      simp only [anyForm, htakes, Bool.true_or, iff_true, Bool.or_eq_true, anyFormIn_eq_any, List.any_eq_true]
      exact .inr ⟨q, by simp, hany⟩
  | query => cases hproper

end GeoLayers.Sql.Expr

namespace GeoLayers.Where

open Sql (Expr Form)

/-- Of the constructs that take a query an accepted clause has at most arrays of a query's rows,
and it has a query in it, at any depth, exactly if it has such an array. -/
theorem nested_query_iff_array {catalog : Catalog} {includeRelated : Bool} {text : String}
    {w : Where} (h : check catalog includeRelated text = .ok (some w)) :
    w.condition.anyForm Form.isNestedQuery = false ∧
      (w.condition.anyForm Form.isQuery = false ↔ w.condition.anyForm Form.isArrayQuery = false) := by
  obtain ⟨e, hparse, -, rfl⟩ := check_eq_some h
  obtain ⟨_, _, -, -, -, hnested⟩ := parse_eq_ok hparse
  obtain ⟨hplaced, hproper⟩ := proper_of_parse hparse
  simp only [anyForm_qualify]
  refine ⟨hnested, ?_⟩
  have hsplit : e.anyForm Form.takesQuery = e.anyForm Form.isArrayQuery := by
    have hor := Sql.Expr.anyForm_or Form.isNestedQuery Form.isArrayQuery e
    rwa [hnested, Bool.false_or] at hor
  rw [← hsplit, ← Bool.not_eq_true, ← Bool.not_eq_true, hplaced.anyForm_isQuery_iff hproper]

/-- A comparison with the rows of a query passes as long as they are made an array first. -/
theorem array_of_secret_rows_passes : ∃ w,
    check wells false "name = ANY(ARRAY(SELECT * FROM secrets))" = .ok (some w) ∧
      w.condition.anyForm Form.isQuery = true ∧
      w.text = "\"source\".\"name\" = ANY(ARRAY(SELECT * FROM secrets))" := by
  obtain ⟨w, hcheck, htest⟩ := exists_of_passesWith wells false
    "name = ANY(ARRAY(SELECT * FROM secrets))"
    (fun w => w.condition.anyForm Form.isQuery &&
      w.text == "\"source\".\"name\" = ANY(ARRAY(SELECT * FROM secrets))") (by decide +kernel)
  simp only [Bool.and_eq_true, beq_iff_eq] at htest
  exact ⟨w, hcheck, htest⟩

theorem nested_query_iff_array_comparison : ∃ w,
    check wells false "depth > 10.5 AND name IN ('a', 'b')" = .ok (some w) ∧
      w.condition.anyForm Form.isNestedQuery = false ∧
      (w.condition.anyForm Form.isQuery = false ↔ w.condition.anyForm Form.isArrayQuery = false) := by
  obtain ⟨w, hcheck, -⟩ := exists_of_passesWith wells false
    "depth > 10.5 AND name IN ('a', 'b')" (fun _ => true) (by decide +kernel)
  exact ⟨w, hcheck, nested_query_iff_array hcheck⟩

end GeoLayers.Where
