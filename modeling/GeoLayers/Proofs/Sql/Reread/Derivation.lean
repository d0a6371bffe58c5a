import GeoLayers.Sql.Parser.Query
import GeoLayers.Proofs.Sql.Reread.Conditions

/-!
The grammar of plain conditions as a relation between the tokens that are read, the condition that
they make and the tokens that follow. It has a rule for each way in which an operand starts and
for each way in which it goes on; all rules of a level read their parts with the level below.
-/

namespace GeoLayers.Sql.Parser

/-- How expressions are read: those whose operators bind more strongly than the given strength,
from the first tokens, up to the last ones. -/
abbrev Reading := Nat → List Token → Expr → List Token → Prop

/-- How strongly the operator in front binds, if it is not a period: no operand takes up a period
that stands behind another. -/
def edge (ts : List Token) : Nat :=
  if ts.head? = some (.symbol .period) then 0 else strength ts

theorem edge_le (ts : List Token) (least : Nat) :
    edge ts ≤ least ↔ (strength ts ≤ least || ts.head? == some (.symbol .period)) = true := by
  unfold edge
  split
  · next hperiod => simp [hperiod]
  · next hperiod => simp [hperiod]

/-- Nothing binds more strongly than a period. -/
theorem strength_le (ts : List Token) : strength ts ≤ periodStrength := by
  unfold strength
  split
  · next s ts => cases s <;> decide
  · decide
  · split
    case h_5 => split <;> decide
    case h_6 => split <;> decide
    all_goals decide
  · decide

theorem edge_le_period (ts : List Token) : edge ts ≤ periodStrength := by
  unfold edge
  split
  · exact Nat.zero_le _
  · exact strength_le ts

/-- An operand is gone on with only by an operator that binds strongly enough. -/
theorem extendedLoop_stops {g : Grammar} {least : Nat} {ts : List Token} (e : Expr)
    (h : edge ts ≤ least) (fuel : Nat) : extendedLoop g least (fuel + 1) e ts = .ok (e, ts) := by
  simp only [extendedLoop]
  rw [if_pos ((edge_le ts least).1 h)]

/-- The constant that a token is. -/
def constant? : Token → Option Literal
  | .number digits long => some (.number digits long)
  | .text kind body => some (.text kind body)
  | .word w =>
    match w.keyword with
    | some .TRUE => some (.boolean true)
    | some .FALSE => some (.boolean false)
    | some .NULL => some .null
    | _ => none
  | _ => none

/-- The operator that a token between operands is. -/
def infix? : Token → Option BinaryOp
  | .symbol s => binarySymbol? s
  | .word w =>
    match w.keyword with
    | some .AND => some .and
    | some .OR => some .or
    | some .XOR => some .xor
    | some .OVERLAPS => some .overlaps
    | _ => none
  | _ => none

/-- Items with commas between them. -/
inductive Items (R : Reading) : List Token → List Expr → List Token → Prop
  | one {ts rest : List Token} {e : Expr} (h : R 0 ts e rest) : Items R ts [e] rest
  | more {ts mid rest : List Token} {e : Expr} {es : List Expr}
      (h : R 0 ts e (.symbol .comma :: mid)) (hmore : Items R mid es rest) :
      Items R ts (e :: es) rest

/-- The names of a path after the first one. A name between single quotes is taken as it is. -/
inductive Dots (R : Reading) : List Token → List Ident → List Token → Prop
  | stop {ts : List Token} (h : ts.head? ≠ some (.symbol .period)) : Dots R ts [] ts
  | text {body : String} {mid rest : List Token} {names : List Ident} (h : Dots R mid names rest) :
      Dots R (.symbol .period :: .text .plain body :: mid) (⟨body, .single⟩ :: names) rest
  | column {name : Ident} {ts mid rest : List Token} {names : List Ident}
      (h : R periodStrength ts (.column name) mid) (hmore : Dots R mid names rest) :
      Dots R (.symbol .period :: ts) (name :: names) rest
  | path {parts : List Ident} {ts mid rest : List Token} {names : List Ident}
      (h : R periodStrength ts (.path parts) mid) (hmore : Dots R mid names rest) :
      Dots R (.symbol .period :: ts) (parts ++ names) rest

/-- How an operand starts. -/
inductive Starts (R : Reading) : List Token → Expr → List Token → Prop
  | column (w : Word) (rest : List Token) : Starts R (.word w :: rest) (.column w.ident) rest
  | path (w : Word) {mid rest : List Token} {names : List Ident} (h : Dots R mid names rest)
      (hne : names ≠ []) : Starts R (.word w :: mid) (.path (w.ident :: names)) rest
  | constant {t : Token} {value : Literal} (h : constant? t = some value) (rest : List Token) :
      Starts R (t :: rest) (leaf (.literal value)) rest
  | plus {ts rest : List Token} {e : Expr} (h : R productStrength ts e rest) :
      Starts R (.symbol .plus :: ts) (.form (.unary .plus) [e]) rest
  | minus {ts rest : List Token} {e : Expr} (h : R productStrength ts e rest) :
      Starts R (.symbol .minus :: ts) (.form (.unary .minus) [e]) rest
  | not {t : Token} {ts rest : List Token} {e : Expr} (ht : t.keyword? = some .NOT)
      (h : R notStrength ts e rest) : Starts R (t :: ts) (.form (.unary .not) [e]) rest
  | nested {ts rest : List Token} {e : Expr} (h : R 0 ts e (.symbol .rParen :: rest)) :
      Starts R (.symbol .lParen :: ts) (.form .nested [e]) rest
  | tuple {ts rest : List Token} {e e' : Expr} {es : List Expr}
      (h : Items R ts (e :: e' :: es) (.symbol .rParen :: rest)) :
      Starts R (.symbol .lParen :: ts) (.form .tuple (e :: e' :: es)) rest

/-- How an operator goes on after the operand `e`. -/
inductive Extends (R : Reading) (e : Expr) : List Token → Expr → List Token → Prop
  | binary {t : Token} {op : BinaryOp} {ts rest : List Token} {r : Expr} (ht : infix? t = some op)
      (hop : op.isPlain = true) (h : R (strength (t :: ts)) ts r rest) :
      Extends R e (t :: ts) (.form (.binary op) [e, r]) rest
  | test {ts rest : List Token} {ks : List Keyword} (hs : strength ts = isStrength)
      (hks : afterKeywords ks ts = some rest) (negated : Bool) (what : Test) :
      Extends R e ts (.form (.test negated what) [e]) rest
  | distinctFrom {ts mid rest : List Token} {ks : List Keyword} {r : Expr}
      (hs : strength ts = isStrength) (hks : afterKeywords ks ts = some mid) (negated : Bool)
      (h : R 0 mid r rest) : Extends R e ts (.form (.distinctFrom negated) [e, r]) rest
  | inList {ts mid rest : List Token} {ks : List Keyword} {item : Expr} {items : List Expr}
      (hs : strength ts = likeStrength) (hks : afterKeywords ks ts = some (.symbol .lParen :: mid))
      (negated : Bool) (h : Items R mid (item :: items) (.symbol .rParen :: rest)) :
      Extends R e ts (.form (.inList negated) (e :: item :: items)) rest
  | between {ts mid mid' last rest : List Token} {ks : List Keyword} {low high : Expr}
      (hs : strength ts = likeStrength) (hks : afterKeywords ks ts = some mid) (negated : Bool)
      (hlow : R likeStrength mid low mid') (hand : afterKeywords [.AND] mid' = some last)
      (hhigh : R likeStrength last high rest) :
      Extends R e ts (.form (.between negated) [e, low, high]) rest
  | like {ts mid rest : List Token} {ks : List Keyword} {pattern : Expr}
      (hs : strength ts = likeStrength) (hks : afterKeywords ks ts = some mid) (kind : LikeKind)
      (negated any : Bool) (hany : kind = .similar → any = false)
      (h : R likeStrength mid pattern rest) :
      Extends R e ts (.form (.like kind negated any none) [e, pattern]) rest
  | regexp {ts mid rest : List Token} {ks : List Keyword} {pattern : Expr}
      (hs : strength ts = likeStrength) (hks : afterKeywords ks ts = some mid)
      (negated rlike : Bool) (h : R likeStrength mid pattern rest) :
      Extends R e ts (.form (.regexp negated rlike) [e, pattern]) rest
  | atTimeZone {ts mid rest : List Token} {ks : List Keyword} {zone : Expr}
      (hs : strength ts = zoneStrength) (hks : afterKeywords ks ts = some mid)
      (h : R zoneStrength mid zone rest) : Extends R e ts (.form .atTimeZone [e, zone]) rest

/-- How an operand goes on as long as the operators bind more strongly than `least`. -/
inductive Goes (R : Reading) (least : Nat) : Expr → List Token → Expr → List Token → Prop
  | stop {ts : List Token} {e : Expr} (h : edge ts ≤ least) : Goes R least e ts e ts
  | step {ts mid rest : List Token} {e e' x : Expr} (hleast : least < edge ts)
      (h : Extends R e ts e' mid) (hmore : Goes R least e' mid x rest) : Goes R least e ts x rest

/-- The reading of plain conditions with a number of levels of nesting. -/
def Derives : Nat → Reading
  | 0 => fun _ _ _ _ => False
  | level + 1 => fun least ts x rest => ∃ e mid, Starts (Derives level) ts e mid ∧
      mid.head? ≠ some (.symbol .period) ∧ Goes (Derives level) least e mid x rest

end GeoLayers.Sql.Parser
