import GeoLayers.Proofs.Sql.Traversal

/-!
Expressions by their places. A place is the list of the operands to descend to, from the outermost
construct inwards. An expression is determined by the nodes at its places, and a traversal by what it
does to the node at each of them.
-/

namespace GeoLayers.Sql

/-- What stands at a place of an expression, without what stands below it: of a construct, its form
and the number of its operands. -/
inductive Node where
  | column (name : Ident)
  | path (parts : List Ident)
  | form (head : Form) (operands : Nat)
  deriving DecidableEq, Repr

namespace Expr

/-- The outermost node. -/
def node : Expr → Node
  | .column name => .column name
  | .path parts => .path parts
  | .form head operands => .form head operands.length

/-- What stands below the outermost node. -/
def operands : Expr → List Expr
  | .column _ | .path _ => []
  | .form _ operands => operands

/-- The node at a place, if the expression reaches that far. -/
def nodeAt? : Expr → List Nat → Option Node
  | e, [] => some e.node
  | e, i :: place => e.operands[i]?.bind fun operand => operand.nodeAt? place

theorem nodeAt?_nil (e : Expr) : e.nodeAt? [] = some e.node := rfl

theorem nodeAt?_cons (e : Expr) (i : Nat) (place : List Nat) :
    e.nodeAt? (i :: place) = e.operands[i]?.bind fun operand => operand.nodeAt? place := rfl

theorem nodeAt?_cons_eq_some {e : Expr} {i : Nat} {place : List Nat} {node : Node} :
    e.nodeAt? (i :: place) = some node ↔
      ∃ operand, e.operands[i]? = some operand ∧ operand.nodeAt? place = some node :=
  Option.bind_eq_some_iff

/-- A node at a place of a construct is the outermost one or at a place of an operand. -/
theorem exists_nodeAt?_form {P : Node → Prop} {head : Form} {operands : List Expr} :
    (∃ place node, (form head operands).nodeAt? place = some node ∧ P node) ↔
      P (.form head operands.length) ∨
        ∃ operand ∈ operands, ∃ place node, operand.nodeAt? place = some node ∧ P node := by
  constructor
  · rintro ⟨_ | ⟨i, place⟩, node, hnode, h⟩
    · obtain rfl := Option.some.inj hnode
      exact .inl h
    · obtain ⟨operand, hoperand, hnode⟩ := nodeAt?_cons_eq_some.1 hnode
      exact .inr ⟨operand, List.mem_of_getElem? hoperand, place, node, hnode, h⟩
  · rintro (h | ⟨operand, hoperand, place, node, hnode, h⟩)
    · exact ⟨[], _, rfl, h⟩
    · obtain ⟨i, hi⟩ := List.mem_iff_getElem?.1 hoperand
      exact ⟨i :: place, node, nodeAt?_cons_eq_some.2 ⟨operand, hi, hnode⟩, h⟩

/-- An expression without operands has no place but the outermost. -/
theorem exists_nodeAt?_of_operands {P : Node → Prop} {e : Expr} (h : e.operands = []) :
    (∃ place node, e.nodeAt? place = some node ∧ P node) ↔ P e.node := by
  constructor
  · rintro ⟨_ | ⟨i, place⟩, node, hnode, hP⟩
    · obtain rfl := Option.some.inj hnode
      exact hP
    · rw [nodeAt?_cons, h] at hnode
      cases hnode
  · exact fun hP => ⟨[], _, rfl, hP⟩

/-- Expressions with the same node at every place are the same. -/
theorem ext_nodeAt? {e e' : Expr} (h : ∀ place, e.nodeAt? place = e'.nodeAt? place) : e = e' := by
  induction e using induction_of_operands generalizing e' with
  | hcolumn name =>
      have hroot : Node.column name = e'.node := Option.some.inj (h [])
      cases e' <;> cases hroot
      rfl
  | hpath parts =>
      have hroot : Node.path parts = e'.node := Option.some.inj (h [])
      cases e' <;> cases hroot
      rfl
  | hform head operands ih =>
      have hroot : Node.form head operands.length = e'.node := Option.some.inj (h [])
      cases e' with
      | column name => cases hroot
      | path parts => cases hroot
      | form head' operands' =>
          obtain ⟨rfl, hlength⟩ := Node.form.inj hroot
          congr 1
          refine List.ext_getElem hlength fun i hi hi' => ih _ (List.getElem_mem hi) fun place => ?_
          have hbelow : operands[i]?.bind (nodeAt? · place) = operands'[i]?.bind (nodeAt? · place) :=
            h (i :: place)
          rwa [List.getElem?_eq_getElem hi, List.getElem?_eq_getElem hi'] at hbelow

end Expr

namespace Node

/-- What becomes of a node if columns and paths are replaced. -/
def mapNames (onColumn : Ident → Expr) (onPath : List Ident → Expr) : Node → Node
  | .column name => (onColumn name).node
  | .path parts => (onPath parts).node
  | .form head operands => .form head operands

/-- The reference that a node is. -/
def reference? : Node → Option (List String)
  | .column name => some [name.value]
  | .path parts => some (parts.map Ident.value)
  | .form _ _ => none

end Node

namespace Expr

/-- Replacing names by names changes the node at each place by itself, and no place comes or goes. -/
theorem nodeAt?_mapNames {onColumn : Ident → Expr} {onPath : List Ident → Expr}
    (hcolumn : ∀ name, (onColumn name).operands = []) (hpath : ∀ parts, (onPath parts).operands = [])
    (e : Expr) (place : List Nat) :
    (e.mapNames onColumn onPath).nodeAt? place =
      (e.nodeAt? place).map (Node.mapNames onColumn onPath) := by
  have hoperands (e : Expr) :
      (e.mapNames onColumn onPath).operands = e.operands.map (mapNames onColumn onPath) := by
    cases e with
    | column name => exact hcolumn name
    | path parts => exact hpath parts
    | form head operands => rw [mapNames, mapNamesAll_eq_map, Expr.operands, Expr.operands]
  induction place generalizing e with
  | nil =>
      cases e with
      | column name => rfl
      | path parts => rfl
      | form head operands => simp [nodeAt?_nil, mapNames, mapNamesAll_eq_map, node, Node.mapNames]
  | cons i place ih =>
      rw [nodeAt?_cons, nodeAt?_cons, hoperands, List.getElem?_map]
      cases e.operands[i]? with
      | none => rfl
      | some operand => exact ih operand

/-- The references of an expression are those of the nodes at its places. -/
theorem mem_references {e : Expr} {parts : List String} :
    parts ∈ e.references ↔
      ∃ place node, e.nodeAt? place = some node ∧ node.reference? = some parts := by
  induction e using induction_of_operands with
  | hcolumn name =>
      rw [exists_nodeAt?_of_operands rfl, references, List.mem_singleton, node, Node.reference?,
        Option.some.injEq, eq_comm]
  | hpath path =>
      rw [exists_nodeAt?_of_operands rfl, references, List.mem_singleton, node, Node.reference?,
        Option.some.injEq, eq_comm]
  | hform head operands ih =>
      have hroot : (Node.form head operands.length).reference? ≠ some parts := by
        simp [Node.reference?]
      rw [exists_nodeAt?_form, or_iff_right hroot, references, referencesAll_eq_flatMap,
        List.mem_flatMap]
      exact exists_congr fun operand => and_congr_right fun hoperand => ih operand hoperand

end Expr

end GeoLayers.Sql
