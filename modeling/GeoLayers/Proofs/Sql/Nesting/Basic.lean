import GeoLayers.Sql.Parser.Query
import GeoLayers.Proofs.Sql.Yields

/-!
Where queries may stand inside an expression: as the last operand of one of four constructs, a
subquery in brackets, `EXISTS`, `IN` and an array made of a query's rows, or inside another query.
`Placed` says that they stand nowhere else and that each of the four has one.
-/

namespace GeoLayers.Sql

/-- Whether a form is a query itself. -/
def Form.isQuery : Form → Bool
  | .query _ => true
  | _ => false

/-- Whether a form makes an array of a query's rows. -/
def Form.isArrayQuery : Form → Bool
  | .arrayQuery _ => true
  | _ => false

/-- Whether a form takes a query as its last operand. -/
def Form.takesQuery (head : Form) : Bool := head.isNestedQuery || head.isArrayQuery

theorem Form.isQuery_of_takesQuery {head : Form} (h : head.takesQuery = true) :
    head.isQuery = false := by
  cases head <;> first | rfl | cases h

namespace Expr

/-- Whether an expression is a query, as opposed to having one in it. -/
def isQuery : Expr → Bool
  | .form head _ => head.isQuery
  | _ => false

/-- Queries stand only where a construct takes one, and there one stands. -/
inductive Placed : Expr → Prop
  | column (name : Ident) : Placed (.column name)
  | path (parts : List Ident) : Placed (.path parts)
  | plain {head : Form} {operands : List Expr} (hquery : head.isQuery = false)
      (htakes : head.takesQuery = false)
      (hplaced : ∀ e ∈ operands, Placed e) (hproper : ∀ e ∈ operands, e.isQuery = false) :
      Placed (.form head operands)
  | takes {head : Form} {before : List Expr} {q : Expr} (htakes : head.takesQuery = true)
      (hplaced : ∀ e ∈ before, Placed e) (hproper : ∀ e ∈ before, e.isQuery = false)
      (hq : Placed q) (hquery : q.isQuery = true) : Placed (.form head (before ++ [q]))
  | query {texts : List String} {operands : List Expr} (hplaced : ∀ e ∈ operands, Placed e) :
      Placed (.form (.query texts) operands)

/-- What an expression is that is no query itself. -/
def Proper (e : Expr) : Prop := e.Placed ∧ e.isQuery = false

/-- What a query is as an expression. -/
def Inner (q : Expr) : Prop := q.Placed ∧ q.isQuery = true

theorem Proper.column (name : Ident) : Proper (.column name) := ⟨.column name, rfl⟩

theorem Proper.path (parts : List Ident) : Proper (.path parts) := ⟨.path parts, rfl⟩

theorem Proper.plain {head : Form} {operands : List Expr} (hquery : head.isQuery = false)
    (htakes : head.takesQuery = false) (h : ∀ e ∈ operands, Proper e) :
    Proper (.form head operands) :=
  ⟨.plain hquery htakes (fun e he => (h e he).1) fun e he => (h e he).2, hquery⟩

theorem Proper.takes {head : Form} {q : Expr} (before : List Expr)
    (htakes : head.takesQuery = true) (h : ∀ e ∈ before, Proper e) (hq : Inner q) :
    Proper (.form head (before ++ [q])) :=
  ⟨.takes htakes (fun e he => (h e he).1) (fun e he => (h e he).2) hq.1 hq.2,
    Form.isQuery_of_takesQuery htakes⟩

/-- The operands of a construct that takes no query are proper. -/
theorem Proper.operands {head : Form} {operands : List Expr} (h : Proper (.form head operands))
    (htakes : head.takesQuery = false) : ∀ e ∈ operands, Proper e := by
  obtain ⟨hplaced, hquery⟩ := h
  cases hplaced with
  | plain _ _ hplaced hproper => exact fun e he => ⟨hplaced e he, hproper e he⟩
  | takes htakes' => simp [htakes'] at htakes
  | query => cases hquery

/-- A construct with another head of the same kind is as proper. -/
theorem Proper.rehead {head head' : Form} {operands : List Expr} (h : Proper (.form head operands))
    (htakes : head.takesQuery = true) (htakes' : head'.takesQuery = true) :
    Proper (.form head' operands) := by
  obtain ⟨hplaced, _⟩ := h
  cases hplaced with
  | plain _ hnone => simp [hnone] at htakes
  | takes _ hplaced hproper hq hquery =>
      exact .takes _ htakes' (fun e he => ⟨hplaced e he, hproper e he⟩) ⟨hq, hquery⟩
  | query => cases htakes

end Expr

namespace Parser

open Sql.Expr (Proper Inner)

/-- A grammar whose expressions are proper and whose queries are queries. -/
structure Grammar.Places (g : Grammar) : Prop where
  expr : ∀ strength, Yields (g.expr strength) Proper
  query : Yields g.query Inner

theorem proper_leaf {head : Form} (hquery : head.isQuery = false) (htakes : head.takesQuery = false) :
    Proper (leaf head) :=
  .plain hquery htakes (by simp)

/-- What a list of operands is that may stand under a construct that takes no query. -/
def AllProper (es : List Expr) : Prop := ∀ e ∈ es, Proper e

@[simp] theorem allProper_nil : AllProper [] := by simp [AllProper]

@[simp] theorem allProper_cons {e : Expr} {es : List Expr} :
    AllProper (e :: es) ↔ Proper e ∧ AllProper es := by
  simp [AllProper]

@[simp] theorem allProper_append {es es' : List Expr} :
    AllProper (es ++ es') ↔ AllProper es ∧ AllProper es' := by
  simp only [AllProper, List.mem_append, or_imp, forall_and]

@[simp] theorem allProper_given {operands : List (Option Expr)} :
    AllProper (given operands) ↔ ∀ found ∈ operands, ∀ e ∈ found, Proper e := by
  simp only [AllProper, given, List.mem_filterMap, id, exists_eq_right, Option.mem_def]
  exact ⟨fun h found hfound e he => h e (he ▸ hfound), fun h e he => h _ he e rfl⟩

theorem proper_form {head : Form} {operands : List Expr} (hquery : head.isQuery = false)
    (htakes : head.takesQuery = false) (h : AllProper operands) : Proper (.form head operands) :=
  .plain hquery htakes h

/-- A construct with one operand. -/
theorem proper_single {head : Form} {e : Expr} (hquery : head.isQuery = false)
    (htakes : head.takesQuery = false) (he : Proper e) : Proper (.form head [e]) :=
  proper_form hquery htakes (by simpa using he)

/-- A construct with two operands. -/
theorem proper_pair {head : Form} {l r : Expr} (hquery : head.isQuery = false)
    (htakes : head.takesQuery = false) (hl : Proper l) (hr : Proper r) :
    Proper (.form head [l, r]) :=
  proper_form hquery htakes (by simpa using ⟨hl, hr⟩)

end Parser

end GeoLayers.Sql
