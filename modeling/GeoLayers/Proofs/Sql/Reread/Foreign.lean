import GeoLayers.Proofs.Sql.Reread.Conditions
import GeoLayers.Proofs.Sql.Yields
import GeoLayers.Sql.Parser.Query

/-!
The constructs that plain conditions do not have, and the functions of the grammar that read nothing
else: calls, casts, intervals, arrays and what starts with a special word.
-/

namespace GeoLayers.Sql

/-- Whether a construct is neither plain with any number of operands nor an access chain. Constants
and comparisons may be plain or not. -/
def Form.isForeign : Form → Bool
  | .literal _ | .unary .plus | .unary .minus | .unary .not | .nested | .tuple | .test _ _
  | .binary _ | .distinctFrom _ | .inList _ | .between _ | .like _ _ _ _ | .regexp _ _
  | .atTimeZone | .access _ => false
  | _ => true

namespace Expr

def isForeign : Expr → Bool
  | .form head _ => head.isForeign
  | _ => false

/-- Whether an expression is a path or an access chain, whose links join those of another. -/
def isChain : Expr → Bool
  | .column _ => false
  | .path _ => true
  | .form (.access _) _ => true
  | .form _ _ => false

theorem isPlain_of_isForeign {e : Expr} (h : e.isForeign = true) : e.isPlain = false := by
  cases e with
  | column name => cases h
  | path parts => cases h
  | form head operands =>
      have hhead : head.isPlain operands.length = false := by
        cases head with
        | unary op =>
            cases op with
            | plus | minus | not => cases h
            | _ => rfl
        | literal value | nested | tuple | test negated what | binary op | distinctFrom negated
        | inList negated | between negated | like kind negated any escape | regexp negated rlike
        | atTimeZone | access steps => cases h
        | _ => rfl
      rw [isPlain, hhead, Bool.false_and]

theorem isChain_of_isForeign {e : Expr} (h : e.isForeign = true) : e.isChain = false := by
  cases e with
  | column name => rfl
  | path parts => cases h
  | form head operands =>
      cases head with
      | access steps => cases h
      | _ => rfl

end Expr

namespace Parser

/-- A parser that reads only constructs that are not plain. -/
abbrev YieldsForeign (p : Parser Expr) : Prop := Yields p fun e => e.isForeign = true

/-- What such a parser reads, if it reads anything. -/
abbrev YieldsForeign? (p : Parser (Option Expr)) : Prop :=
  Yields p fun found => ∀ e ∈ found, e.isForeign = true

theorem yieldsForeign_some {p : Parser Expr} (hp : YieldsForeign p) :
    YieldsForeign? (some <$> p) :=
  .map hp fun e he => by simpa using he

theorem yieldsForeign_none : YieldsForeign? (pure none) := .pure (by simp)

theorem intervalExpr_foreign (value : Parser Expr) : YieldsForeign (intervalExpr value) := by
  refine .step fun e => .step fun k => ?_
  extract_lets led
  have hled (leading : Option DateField) : YieldsForeign (led leading) := by
    refine .ite (fun _ => .step fun scale => ?_) fun _ => .step fun precision => .step fun marked => ?_
    · split
      · exact .pure rfl
      · exact .pure rfl
    · refine .ite (fun _ => .step fun last => ?_) fun _ => .pure rfl
      extract_lets ended
      have hended (fraction : Option Nat) : YieldsForeign (ended fraction) := .pure rfl
      exact .ite (fun _ => .step hended) fun _ => .step hended
  split
  · exact .ite (fun _ => .step hled) fun _ => .step hled
  · exact .step hled

/-- A constant with its type in front is not plain, nor is an interval. -/
theorem typedText_foreign (value : Parser Expr) : YieldsForeign (typedText value) := by
  refine .step fun type => ?_
  split
  · exact intervalExpr_foreign value
  · exact .fail
  · exact .step fun _ => .pure rfl

theorem geometricText_foreign (name : String) : YieldsForeign? (geometricText name) :=
  .step fun _ => .pure (by simp [leaf, Expr.isForeign, Form.isForeign])

section

variable (g : Grammar)

theorem functionExpr_foreign (interval : Parser Expr) (name : List Ident) :
    YieldsForeign (functionExpr g interval name) :=
  .step fun _ => .pure rfl

theorem caseExpr_foreign : YieldsForeign (caseExpr g) := by
  refine .step fun bare => ?_
  extract_lets branched
  have hbranched (operand : Option Expr) : YieldsForeign (branched operand) :=
    .step fun branches => .step fun otherwise => .step fun _ => .pure rfl
  exact .ite (fun _ => .step hbranched) fun _ => .step fun _ => .step fun _ => .step hbranched

theorem convertExpr_foreign : YieldsForeign (convertExpr g) := by
  refine .bracketed (.step fun e => .step fun marked => .ite (fun _ => ?_) fun _ => ?_)
  · exact .step fun charset => .pure rfl
  · refine .step fun _ => .step fun type => .step fun marked => ?_
    exact .ite (fun _ => .step fun set => .ite (fun _ => .step fun _ => .pure rfl)
      fun _ => .step fun _ => .pure rfl) fun _ => .step fun _ => .pure rfl

theorem castExpr_foreign (kind : CastKind) : YieldsForeign (castExpr g kind) :=
  .bracketed (.step fun _ => .step fun _ => .step fun _ => .step fun _ => .pure rfl)

theorem existsExpr_foreign (negated : Bool) : YieldsForeign (existsExpr g negated) :=
  .bracketed (.step fun _ => .pure rfl)

theorem extractExpr_foreign : YieldsForeign (extractExpr g) :=
  .bracketed (.step fun _ => .step fun _ => .step fun _ => .pure rfl)

theorem roundExpr_foreign (up : Bool) : YieldsForeign (roundExpr g up) := by
  refine .bracketed (.step fun e => .step fun marked => .ite (fun _ => ?_) fun _ => ?_)
  · exact .step fun field => .pure rfl
  · refine .step fun comma => .ite (fun _ => .step fun scale => ?_) fun _ => .pure rfl
    split
    · exact .pure rfl
    · exact .fail

theorem positionExpr_foreign (interval : Parser Expr) (name : Ident) :
    YieldsForeign (positionExpr g interval name) := by
  have hfound : YieldsForeign (bracketed (do
      let e ← g.expr likeStrength
      keyword .IN
      let whole ← g.expr 0
      pure (Expr.form .position [e, whole]))) :=
    .bracketed (.step fun _ => .step fun _ => .step fun _ => .pure rfl)
  refine .bind (.attempt hfound) fun found h => ?_
  split
  · exact .pure (h _ rfl)
  · exact functionExpr_foreign g interval _

theorem substringExpr_foreign : YieldsForeign (substringExpr g) := by
  refine .bracketed (.step fun e => .step fun comma => ?_)
  extract_lets started
  have hstarted (start : Option Expr) : YieldsForeign (started start) := by
    refine .step fun marked => ?_
    extract_lets ended
    have hended (length : Option Expr) : YieldsForeign (ended length) := .pure rfl
    exact .ite (fun _ => .step hended) fun _ => .step hended
  exact .ite (fun _ => .step hstarted) fun _ => .step hstarted

theorem overlayExpr_foreign : YieldsForeign (overlayExpr g) :=
  .bracketed (.step fun _ => .step fun _ => .step fun _ => .step fun _ => .step fun _ =>
    .step fun _ => .pure rfl)

theorem trimExpr_foreign : YieldsForeign (trimExpr g) := by
  refine .bracketed (.step fun side => ?_)
  extract_lets trimmed
  have htrimmed (side : Option TrimSide) : YieldsForeign (trimmed side) :=
    .step fun _ => .step fun _ => .ite (fun _ => .step fun _ => .pure rfl) fun _ => .pure rfl
  split
  all_goals exact .step htrimmed

theorem arrayExpr_foreign (named : Bool) : YieldsForeign (arrayExpr g named) := by
  refine .step fun closed => ?_
  extract_lets listed
  have hlisted (items : List Expr) : YieldsForeign (listed items) := .step fun _ => .pure rfl
  exact .ite (fun _ => .step hlisted) fun _ => .step hlisted

theorem arrayQueryExpr_foreign (name : Ident) : YieldsForeign (arrayQueryExpr g name) :=
  .step fun _ => .pure rfl

theorem clockExpr_foreign (name : Ident) : YieldsForeign (clockExpr g name) :=
  .step fun _ => .ite (fun _ => .step fun _ => .pure rfl) fun _ => .pure rfl

theorem braceOperand_foreign (value : Parser Expr) : YieldsForeign (braceOperand g value) :=
  .step fun _ => .step fun _ => .step fun _ => .step fun _ => .pure rfl

/-- An operator in front that is no sign. -/
theorem signed_foreign {op : UnaryOp} (h : (Form.unary op).isForeign = true) (strength : Nat) :
    YieldsForeign (signed g op strength) :=
  .step fun _ => .pure h

end

end Parser

end GeoLayers.Sql
