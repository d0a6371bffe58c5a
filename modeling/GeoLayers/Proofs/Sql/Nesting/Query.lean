import GeoLayers.Sql.Parser.Query
import GeoLayers.Proofs.Sql.Nesting.Expr

/-!
Reading a query puts queries only where they may stand, and so does every level of the grammar.
Inside a query the operands may be queries themselves, as derived tables and set operations are.
-/

namespace GeoLayers.Sql.Parser

open Sql.Expr (Placed Proper Inner)

/-- Pieces whose operands place queries well. -/
def PiecesPlaced (pieces : List Piece) : Prop := ∀ e ∈ Piece.operands pieces, Placed e

@[simp] theorem piecesPlaced_nil : PiecesPlaced [] := by simp [PiecesPlaced, Piece.operands]

@[simp] theorem piecesPlaced_text {s : String} {pieces : List Piece} :
    PiecesPlaced (.text s :: pieces) ↔ PiecesPlaced pieces := by
  simp [PiecesPlaced, Piece.operands]

@[simp] theorem piecesPlaced_operand {e : Expr} {pieces : List Piece} :
    PiecesPlaced (.operand e :: pieces) ↔ Placed e ∧ PiecesPlaced pieces := by
  simp [PiecesPlaced, Piece.operands]

@[simp] theorem piecesPlaced_append {pieces pieces' : List Piece} :
    PiecesPlaced (pieces ++ pieces') ↔ PiecesPlaced pieces ∧ PiecesPlaced pieces' := by
  simp only [PiecesPlaced, Piece.operands, List.filterMap_append, List.mem_append, or_imp,
    forall_and]

theorem piecesPlaced_joined {sep : String} {parts : List (List Piece)}
    (h : ∀ pieces ∈ parts, PiecesPlaced pieces) : PiecesPlaced (Piece.joined sep parts) := by
  fun_induction Piece.joined sep parts with
  | case1 => simp
  | case2 pieces => exact h pieces (by simp)
  | case3 pieces more _ ih =>
      simp only [piecesPlaced_append, piecesPlaced_text]
      exact ⟨h pieces (by simp), ih fun p hp => h p (List.mem_cons_of_mem _ hp)⟩

theorem piecesPlaced_of_proper {e : Expr} (he : Proper e) : PiecesPlaced [.operand e] := by
  simpa using he.1

section Queries

variable {g : Grammar} (hg : g.Places)

theorem tableAlias_places : Yields tableAlias PiecesPlaced := by
  refine .step fun name => ?_
  split
  · exact .pure (by simp)
  · exact .step fun columns => .pure (by simp)

include hg

theorem exprList_places : Yields (exprList g) PiecesPlaced := by
  refine .bind (.commaSeparated (hg.expr 0)) fun es hes => .pure (piecesPlaced_joined ?_)
  exact List.forall_mem_map.2 fun e he => piecesPlaced_of_proper (hes e he)

theorem item_places : Yields (item g) PiecesPlaced := by
  refine .step fun starred => ?_
  split
  · exact .pure (by simp)
  · exact .pure (by simp)
  · refine .bind (hg.expr 0) fun e he => ?_
    dsimp only
    split
    · refine .ite (fun _ => .step fun _ => .step fun name => ?_) fun _ => .step fun name => ?_
      all_goals split
      all_goals exact .pure (by simpa using he.1)
    · refine .step fun name => ?_
      split
      · exact .pure (by simpa using he.1)
      · exact .pure (piecesPlaced_of_proper he)

theorem derived_places : Yields (derived g) PiecesPlaced := by
  refine .bind hg.query fun q hq => .step fun _ => .bind tableAlias_places fun name hname => ?_
  exact .pure (by simpa using ⟨hq.1, hname⟩)

theorem tableArguments_places : Yields (tableArguments g) PiecesPlaced := by
  refine .step fun closed => .ite (fun _ => .pure (by simp)) fun _ => ?_
  refine .bind (.commaSeparated (argument_places hg)) fun args hargs => .step fun _ => .pure ?_
  refine piecesPlaced_of_proper (proper_form rfl rfl fun e he => ?_)
  obtain ⟨arg, harg, hmem⟩ := List.mem_flatMap.1 he
  exact hargs arg harg e hmem

theorem namedTable_places (marked : String) : Yields (namedTable g marked) PiecesPlaced := by
  refine .step fun name => .step fun bracket => ?_
  extract_lets called
  have hcalled (args : List Piece) (hargs : PiecesPlaced args) :
      Yields (called args) PiecesPlaced := by
    refine .step fun ordinality => .bind tableAlias_places fun name' hname' => .pure ?_
    simpa using ⟨hargs, hname'⟩
  exact .ite (fun _ => .bind (tableArguments_places hg) hcalled)
    fun _ => .bind (.pure (by simp)) hcalled

theorem joinCondition_places (natural : Bool) : Yields (joinCondition g natural) PiecesPlaced := by
  refine .ite (fun _ => .pure (by simp)) fun _ => .step fun on => .ite (fun _ => ?_) fun _ => ?_
  · exact .bind (hg.expr 0) fun e he => .pure (by simpa using he.1)
  · exact .step fun listed => .ite (fun _ => .step fun names => .pure (by simp)) fun _ => .pure (by simp)

theorem joins_places {factor : Parser (List Piece)} (hfactor : Yields factor PiecesPlaced)
    (fuel : Nat) : Yields (joins g factor fuel) PiecesPlaced := by
  induction fuel with
  | zero => exact .fail
  | succ fuel ih =>
      refine .step fun wide => .step fun cross => .ite (fun _ => ?_) fun _ => .step fun natural => ?_
      · refine .bind hfactor fun table htable => .bind ih fun more hmore => .pure ?_
        simpa using ⟨htable, hmore⟩
      · refine .step fun words => ?_
        split
        · exact .pure (by simp)
        · refine .bind hfactor fun table htable => ?_
          refine .bind (joinCondition_places hg natural) fun condition hcondition => ?_
          exact .bind ih fun more hmore => .pure (by simpa using ⟨htable, hcondition, hmore⟩)

theorem tableFactor_places (fuel : Nat) : Yields (tableFactor g fuel) PiecesPlaced := by
  induction fuel with
  | zero => exact .fail
  | succ fuel ih =>
      refine .step fun lateral => .ite (fun _ => .step fun bracket => .ite (fun _ => ?_) fun _ => ?_)
        fun _ => .step fun table => .ite (fun _ => ?_) fun _ =>
        .step fun bracket => .ite (fun _ => ?_) fun _ =>
        .step fun unnest => .ite (fun _ => ?_) fun _ => namedTable_places hg _
      · exact .bind (derived_places hg) fun pieces hpieces => .pure (by simpa using hpieces)
      · exact namedTable_places hg _
      · refine .bind (.bracketed (hg.expr 0)) fun e he => .bind tableAlias_places fun name hname => ?_
        exact .pure (by simpa using ⟨he.1, hname⟩)
      · refine .bind (.attempt (derived_places hg)) fun found hfound => ?_
        split
        · exact .pure (hfound _ rfl)
        · refine .step fun nested => .bind ih fun table htable => ?_
          refine .bind (.atTokens (q := fun ts => joins g (tableFactor g fuel) (ts.length + 1))
            fun _ => joins_places hg ih _) fun more hmore => ?_
          extract_lets closed
          have hclosed : Yields (closed ()) PiecesPlaced := by
            refine .step fun _ => .bind tableAlias_places fun name hname => .pure ?_
            simpa using ⟨htable, hmore, hname⟩
          exact .ite (fun _ => .step fun _ => hclosed) fun _ => hclosed
      · refine .bind (.bracketed (exprList_places hg)) fun elements helements => ?_
        refine .step fun ordinality => .bind tableAlias_places fun name hname => .pure ?_
        simpa using ⟨helements, hname⟩

theorem joinedTable_places : Yields (joinedTable g) PiecesPlaced := by
  refine .atTokens (q := fun ts => do
    let table ← tableFactor g (ts.length + 1)
    let more ← joins g (tableFactor g (ts.length + 1)) (ts.length + 1)
    pure (table ++ more)) fun ts => ?_
  refine .bind (tableFactor_places hg _) fun table htable => ?_
  refine .bind (joins_places hg (tableFactor_places hg _) _) fun more hmore => .pure ?_
  exact piecesPlaced_append.2 ⟨htable, hmore⟩

theorem distinct_places : Yields (distinct g) PiecesPlaced := by
  refine .step fun all => .step fun marked => .ite (fun _ => ?_) fun _ => .pure (by simp)
  extract_lets listed applied
  have happlied : Yields (applied ()) PiecesPlaced := by
    refine .step fun on => .ite (fun _ => .step fun _ => .step fun closed => ?_) fun _ => .pure (by simp)
    have hlisted (es : List Piece) (hes : PiecesPlaced es) : Yields (listed es) PiecesPlaced :=
      .step fun _ => .pure (by simpa using hes)
    exact .ite (fun _ => .bind (.pure (by simp)) hlisted) fun _ => .bind (exprList_places hg) hlisted
  exact .ite (fun _ => .step fun _ => happlied) fun _ => happlied

theorem listClause_places (words : List Keyword) (text : String) :
    Yields (listClause g words text) PiecesPlaced :=
  .step fun _ => .ite (fun _ => .bind (exprList_places hg) fun _ hes => .pure (by simpa using hes))
    fun _ => .pure (by simp)

theorem rowClauses_places : Yields (rowClauses g) PiecesPlaced := by
  refine .bind (listClause_places hg _ _) fun cluster hcluster => ?_
  refine .bind (listClause_places hg _ _) fun distribute hdistribute => ?_
  refine .bind (listClause_places hg _ _) fun sort hsort => .step fun qualify => ?_
  extract_lets qualified
  have hqualified (qualify : List Piece) (hqualify : PiecesPlaced qualify) :
      Yields (qualified qualify) PiecesPlaced :=
    .pure (by simpa using ⟨hcluster, hdistribute, hsort, hqualify⟩)
  refine .ite (fun _ => .bind (hg.expr 0) fun e he => ?_) fun _ => ?_
  · exact .bind (.pure (by simpa using he.1)) hqualified
  · exact .bind (.pure (by simp)) hqualified

theorem select_places : Yields (select g) PiecesPlaced := by
  refine .step fun _ => .bind (distinct_places hg) fun distinct hdistinct => .step fun k => ?_
  extract_lets itemized
  have hitemized (items : List Piece) (hitems : PiecesPlaced items) :
      Yields (itemized items) PiecesPlaced := by
    refine .step fun from_ => ?_
    extract_lets tabled
    have htabled (tables : List Piece) (htables : PiecesPlaced tables) :
        Yields (tabled tables) PiecesPlaced := by
      refine .step fun where_ => ?_
      extract_lets conditioned
      have hconditioned (condition : List Piece) (hcondition : PiecesPlaced condition) :
          Yields (conditioned condition) PiecesPlaced := by
        refine .bind (rowClauses_places hg) fun rows hrows => .pure ?_
        simpa using ⟨hdistinct, hitems, htables, hcondition, hrows⟩
      refine .ite (fun _ => .bind (hg.expr 0) fun e he => ?_) fun _ => ?_
      · exact .bind (.pure (by simpa using he.1)) hconditioned
      · exact .bind (.pure (by simp)) hconditioned
    refine .ite (fun _ => .bind (.commaSeparated (joinedTable_places hg)) fun tables htables => ?_)
      fun _ => .bind (.pure (by simp)) htabled
    exact .bind (.pure (by simpa using piecesPlaced_joined htables)) htabled
  split
  · exact .bind (.pure (by simp)) hitemized
  · refine .bind (.commaSeparated (item_places hg)) fun items hitems => ?_
    exact .bind (.pure (by simpa using piecesPlaced_joined hitems)) hitemized

theorem values_places : Yields (values g) PiecesPlaced := by
  have hrow : Yields (do
      let marked ← keyword? .ROW
      let es ← bracketed (exprList g)
      pure (marked, es)) fun r => PiecesPlaced r.2 :=
    .step fun _ => .bind (.bracketed (exprList_places hg)) fun _ hes => .pure hes
  refine .bind (.commaSeparated hrow) fun rows hrows => .pure ?_
  refine piecesPlaced_text.2 (piecesPlaced_joined (List.forall_mem_map.2 fun row hrow => ?_))
  simpa using hrows row hrow

theorem simpleBody_places : Yields (simpleBody g) PiecesPlaced := by
  have htable : Yields tableName PiecesPlaced := by
    intro ts pieces rest h
    unfold tableName at h
    split at h
    all_goals cases h
    all_goals simp
  refine .step fun k => ?_
  split
  · exact select_places hg
  · refine .step fun bracket => .ite (fun _ => ?_) fun _ => ?_
    · exact .bind hg.query fun q hq => .step fun _ => .pure (by simpa using hq.1)
    · exact .step fun rows => .ite (fun _ => values_places hg) fun _ =>
        .step fun table => .ite (fun _ => htable) fun _ => .fail

theorem differences_places (fuel : Nat) : Yields (differences g fuel) PiecesPlaced := by
  induction fuel with
  | zero => exact .fail
  | succ fuel ih =>
      refine .step fun minus => .ite (fun _ => .step fun mark => ?_) fun _ => .pure (by simp)
      refine .bind (simpleBody_places hg) fun right hright => .bind ih fun more hmore => .pure ?_
      simpa using ⟨hright, hmore⟩

theorem body_places : Yields (body g) PiecesPlaced := by
  refine .bind (simpleBody_places hg) fun first hfirst => ?_
  refine .bind (.atTokens (q := fun ts => differences g (ts.length + 1))
    fun _ => differences_places hg _) fun more hmore => .pure ?_
  exact piecesPlaced_append.2 ⟨hfirst, hmore⟩

theorem namedQuery_places : Yields (namedQuery g) PiecesPlaced := by
  refine .step fun name => .step fun listed => ?_
  extract_lets headed
  have hheaded (columns : String) : Yields (headed columns) PiecesPlaced := by
    refine .step fun _ => .step fun materialized => ?_
    extract_lets kept
    have hkept (words : String) : Yields (kept words) PiecesPlaced := by
      refine .bind (.bracketed hg.query) fun q hq => .step fun from_ => ?_
      extract_lets ended
      have hended (source : String) : Yields (ended source) PiecesPlaced := .pure (by simpa using hq.1)
      exact .ite (fun _ => .step fun _ => .step hended) fun _ => .step hended
    exact .ite (fun _ => .step hkept) fun _ => .step fun _ => .ite (fun _ => .step hkept) fun _ => .step hkept
  exact .ite (fun _ => .step fun _ => .step hheaded) fun _ => .step hheaded

theorem queryExpr_places : Yields (queryExpr g) Inner := by
  refine .step fun marked => ?_
  extract_lets headed
  have hheaded (named : List Piece) (hnamed : PiecesPlaced named) : Yields (headed named) Inner := by
    refine .bind (body_places hg) fun pieces hpieces => .step fun tail => .pure ⟨.query ?_, rfl⟩
    have hall : PiecesPlaced (named ++ pieces ++ [.text tail]) := by simpa using ⟨hnamed, hpieces⟩
    exact hall
  refine .ite (fun _ => .step fun recursive => ?_) fun _ => .bind (.pure (by simp)) hheaded
  refine .bind (.commaSeparated (namedQuery_places hg)) fun queries hqueries => ?_
  exact .bind (.pure (by simpa using piecesPlaced_joined hqueries)) hheaded

end Queries

/-- Every level of the grammar places queries well. -/
theorem grammar_places (level : Nat) : (grammar level).Places := by
  induction level with
  | zero =>
      refine ⟨fun strength ts x rest h => ?_, fun ts x rest h => ?_⟩
      · cases h
      · cases h
  | succ level ih => exact ⟨exprAbove_places ih, queryExpr_places ih⟩

/-- A condition is no query, and queries stand in it only where they may. -/
theorem condition_places : Yields condition fun r => Proper r.1 := by
  refine .bind ((grammar_places conditionLevels).expr 0) fun e he => ?_
  refine .step fun rows => .step fun more => .step fun locks => .step fun t => ?_
  extract_lets ended
  have hended : Yields (ended ()) fun r => Proper r.1 := .pure he
  split
  · exact hended
  · exact .ite (fun _ => hended) fun _ => .step fun _ => hended

end GeoLayers.Sql.Parser
