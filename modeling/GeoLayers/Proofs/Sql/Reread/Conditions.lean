import GeoLayers.Proofs.Sql.Reread.Pieces
import GeoLayers.Proofs.Sql.Traversal

/-!
The plain conditions and their text. Plain conditions are made of names, numbers, texts, `TRUE`,
`FALSE` and `NULL` by signs, `NOT`, the operators with two operands, the tests with `IS`, `IN` a
list, `BETWEEN`, the tests of likeness without an escape character, time zones and brackets. Calls,
casts, arrays and queries are not plain.
-/

namespace GeoLayers.Sql

/-- The keywords that a plain condition is written with. -/
def Keyword.spelling : Keyword → String
  | .AND => "AND" | .ANY => "ANY" | .AT => "AT" | .BETWEEN => "BETWEEN"
  | .DISTINCT => "DISTINCT" | .FALSE => "FALSE" | .FROM => "FROM" | .ILIKE => "ILIKE"
  | .IN => "IN" | .IS => "IS" | .LIKE => "LIKE" | .NFC => "NFC" | .NFD => "NFD"
  | .NFKC => "NFKC" | .NFKD => "NFKD" | .NORMALIZED => "NORMALIZED" | .NOT => "NOT"
  | .NULL => "NULL" | .OR => "OR" | .OVERLAPS => "OVERLAPS" | .REGEXP => "REGEXP"
  | .RLIKE => "RLIKE" | .SIMILAR => "SIMILAR" | .TIME => "TIME" | .TO => "TO"
  | .TRUE => "TRUE" | .UNKNOWN => "UNKNOWN" | .XOR => "XOR" | .ZONE => "ZONE"
  | _ => ""

def Keyword.token (k : Keyword) : Token := .word ⟨k.spelling, false, some k⟩

/-- Keywords, each with a blank in front. -/
def keywordPieces (ks : List Keyword) : List Piece := ks.map fun k => ⟨true, k.token⟩

/-- A blank in front of pieces. -/
def spaced : List Piece → List Piece
  | [] => []
  | p :: ps => { p with gap := true } :: ps

/-- Pieces in groups with commas between the groups. -/
def commaPieces : List (List Piece) → List Piece
  | [] => []
  | [e] => e
  | e :: es => e ++ ⟨false, .symbol .comma⟩ :: spaced (commaPieces es)

/-- Pieces between round brackets. -/
def bracketPieces (inside : List Piece) : List Piece :=
  ⟨false, .symbol .lParen⟩ :: (inside ++ [⟨false, .symbol .rParen⟩])

/-- The token of a name between double quotes. -/
def Ident.token (name : Ident) : Token := .word ⟨name.value, true, none⟩

def pathPieces : List Ident → List Piece
  | [] => []
  | [name] => [⟨false, name.token⟩]
  | name :: names => ⟨false, name.token⟩ :: ⟨false, .symbol .period⟩ :: pathPieces names

def Literal.token : Literal → Token
  | .number digits long => .number digits long
  | .text kind body => .text kind body
  | .boolean true => .word ⟨"true", false, some .TRUE⟩
  | .boolean false => .word ⟨"false", false, some .FALSE⟩
  | _ => .word ⟨"NULL", false, some .NULL⟩

def BinaryOp.token : BinaryOp → Token
  | .symbol s => .symbol s
  | .or => Keyword.OR.token
  | .xor => Keyword.XOR.token
  | .overlaps => Keyword.OVERLAPS.token
  | _ => Keyword.AND.token

def Normalization.keyword : Normalization → Keyword
  | .nfc => .NFC
  | .nfd => .NFD
  | .nfkc => .NFKC
  | .nfkd => .NFKD

def Test.keywords : Test → List Keyword
  | .null => [.NULL]
  | .true => [.TRUE]
  | .false => [.FALSE]
  | .unknown => [.UNKNOWN]
  | .normalized none => [.NORMALIZED]
  | .normalized (some form) => [form.keyword, .NORMALIZED]

def LikeKind.keywords : LikeKind → List Keyword
  | .like => [.LIKE]
  | .ilike => [.ILIKE]
  | .similar => [.SIMILAR, .TO]

/-- `NOT` where a test is negated. -/
def notKeyword (negated : Bool) : List Keyword := if negated then [.NOT] else []

/-- The pieces of a construct after its first operand, if it starts with one. -/
def Form.suffix (head : Form) (operands : List (List Piece)) : List Piece :=
  match head, operands with
  | .binary op, [r] => ⟨true, op.token⟩ :: spaced r
  | .test negated what, [] => keywordPieces (.IS :: (notKeyword negated ++ what.keywords))
  | .distinctFrom negated, [r] =>
    keywordPieces (.IS :: (notKeyword negated ++ [.DISTINCT, .FROM])) ++ spaced r
  | .inList negated, items =>
    keywordPieces (notKeyword negated ++ [.IN]) ++ spaced (bracketPieces (commaPieces items))
  | .between negated, [low, high] =>
    keywordPieces (notKeyword negated ++ [.BETWEEN]) ++ spaced low ++
      (keywordPieces [.AND] ++ spaced high)
  | .like kind negated any _, [pattern] =>
    keywordPieces (notKeyword negated ++ kind.keywords ++ if any then [.ANY] else []) ++
      spaced pattern
  | .regexp negated rlike, [pattern] =>
    keywordPieces (notKeyword negated ++ [if rlike then .RLIKE else .REGEXP]) ++ spaced pattern
  | .atTimeZone, [zone] => keywordPieces [.AT, .TIME, .ZONE] ++ spaced zone
  | _, _ => []

/-- The pieces of a construct that does not start with an operand. -/
def Form.enclosed (head : Form) (operands : List (List Piece)) : List Piece :=
  match head, operands with
  | .literal value, _ => [⟨false, value.token⟩]
  | .unary .plus, [e] => ⟨false, .symbol .plus⟩ :: e
  | .unary .minus, [e] => ⟨false, .symbol .minus⟩ :: e
  | .unary _, [e] => ⟨false, Keyword.NOT.token⟩ :: spaced e
  | .nested, [e] => bracketPieces e
  | .tuple, items => bracketPieces (commaPieces items)
  | _, _ => []

/-- Whether a construct starts with its first operand. -/
def Form.startsWithOperand : Form → Bool
  | .binary _ | .test _ _ | .distinctFrom _ | .inList _ | .between _
  | .like _ _ _ _ | .regexp _ _ | .atTimeZone => true
  | _ => false

def Form.pieces (head : Form) (operands : List (List Piece)) : List Piece :=
  match head.startsWithOperand, operands with
  | true, first :: others => first ++ head.suffix others
  | _, operands => head.enclosed operands

def Literal.isPlain : Literal → Bool
  | .number _ _ | .text _ _ | .boolean _ | .null => true
  | _ => false

/-- Whether an operator is a keyword or a symbol that ends before a blank. -/
def BinaryOp.isPlain : BinaryOp → Bool
  | .symbol s =>
    !([.ampGt, .question, .period, .lBracket, .lParen, .semicolon] : List Symbol).contains s
  | .and | .or | .xor | .overlaps => true
  | _ => false

/-- Whether a construct with a number of operands is one of the plain ones. -/
def Form.isPlain (head : Form) (count : Nat) : Bool :=
  match head with
  | .literal value => value.isPlain && count == 0
  | .unary .plus | .unary .minus | .unary .not | .nested | .test _ _ => count == 1
  | .binary op => op.isPlain && count == 2
  | .distinctFrom _ | .like _ _ _ none | .regexp _ _ | .atTimeZone => count == 2
  | .between _ => count == 3
  | .inList _ | .tuple => 2 ≤ count
  | _ => false

/-- The plain constructs with their operands. -/
inductive Form.PlainWith {α : Type} : Form → List α → Prop
  | literal {value : Literal} (h : value.isPlain = true) : PlainWith (.literal value) []
  | plus (e : α) : PlainWith (.unary .plus) [e]
  | minus (e : α) : PlainWith (.unary .minus) [e]
  | not (e : α) : PlainWith (.unary .not) [e]
  | binary {op : BinaryOp} (h : op.isPlain = true) (l r : α) : PlainWith (.binary op) [l, r]
  | test (negated : Bool) (what : Test) (e : α) : PlainWith (.test negated what) [e]
  | distinctFrom (negated : Bool) (l r : α) : PlainWith (.distinctFrom negated) [l, r]
  | inList (negated : Bool) (e item : α) (items : List α) :
      PlainWith (.inList negated) (e :: item :: items)
  | between (negated : Bool) (e low high : α) : PlainWith (.between negated) [e, low, high]
  | like (kind : LikeKind) (negated any : Bool) (e pattern : α) :
      PlainWith (.like kind negated any none) [e, pattern]
  | regexp (negated rlike : Bool) (e pattern : α) : PlainWith (.regexp negated rlike) [e, pattern]
  | atTimeZone (e zone : α) : PlainWith .atTimeZone [e, zone]
  | nested (e : α) : PlainWith .nested [e]
  | tuple (e e' : α) (es : List α) : PlainWith .tuple (e :: e' :: es)

theorem exists_cons_cons {α : Type} {xs : List α} (h : 2 ≤ xs.length) :
    ∃ x y more, xs = x :: y :: more := by
  match xs, h with
  | x :: y :: more, _ => exact ⟨x, y, more, rfl⟩

theorem Form.plainWith_of_isPlain {α : Type} {head : Form} {operands : List α}
    (h : head.isPlain operands.length = true) : head.PlainWith operands := by
  have hone (hcount : operands.length = 1) : ∃ e, operands = [e] := List.length_eq_one_iff.1 hcount
  have htwo (hcount : operands.length = 2) : ∃ l r, operands = [l, r] := by
    match operands, hcount with
    | [l, r], _ => exact ⟨l, r, rfl⟩
  have hthree (hcount : operands.length = 3) : ∃ a b c, operands = [a, b, c] := by
    match operands, hcount with
    | [a, b, c], _ => exact ⟨a, b, c, rfl⟩
  unfold Form.isPlain at h
  split at h
  case h_15 => cases h
  all_goals simp only [Bool.and_eq_true, beq_iff_eq, decide_eq_true_eq] at h
  · obtain rfl := List.length_eq_zero_iff.1 h.2
    exact .literal h.1
  · obtain ⟨e, rfl⟩ := hone h
    exact .plus e
  · obtain ⟨e, rfl⟩ := hone h
    exact .minus e
  · obtain ⟨e, rfl⟩ := hone h
    exact .not e
  · obtain ⟨e, rfl⟩ := hone h
    exact .nested e
  · obtain ⟨e, rfl⟩ := hone h
    exact .test _ _ e
  · obtain ⟨l, r, rfl⟩ := htwo h.2
    exact .binary h.1 l r
  · obtain ⟨l, r, rfl⟩ := htwo h
    exact .distinctFrom _ l r
  · obtain ⟨l, r, rfl⟩ := htwo h
    exact .like _ _ _ l r
  · obtain ⟨l, r, rfl⟩ := htwo h
    exact .regexp _ _ l r
  · obtain ⟨l, r, rfl⟩ := htwo h
    exact .atTimeZone l r
  · obtain ⟨e, low, high, rfl⟩ := hthree h
    exact .between _ e low high
  · obtain ⟨e, item, items, rfl⟩ := exists_cons_cons h
    exact .inList _ e item items
  · obtain ⟨e, e', es, rfl⟩ := exists_cons_cons h
    exact .tuple e e' es

namespace Expr

mutual

/-- The pieces of a plain condition. -/
def pieces : Expr → List Piece
  | .column name => pathPieces [name]
  | .path parts => pathPieces parts
  | .form head operands => head.pieces (piecesAll operands)

def piecesAll : List Expr → List (List Piece)
  | [] => []
  | e :: es => e.pieces :: piecesAll es

end

mutual

/-- Whether every construct in a condition is plain. -/
def isPlain : Expr → Bool
  | .column _ => true
  | .path parts => !parts.isEmpty
  | .form head operands => head.isPlain operands.length && arePlain operands

def arePlain : List Expr → Bool
  | [] => true
  | e :: es => e.isPlain && arePlain es

end

mutual

/-- The names in an expression: the columns and the parts of the paths. -/
def names : Expr → List Ident
  | .column name => [name]
  | .path parts => parts
  | .form _ operands => namesIn operands

def namesIn : List Expr → List Ident
  | [] => []
  | e :: es => e.names ++ namesIn es

end

/-- Whether an expression is a column or a path. -/
def isName : Expr → Bool
  | .column _ | .path _ => true
  | .form _ _ => false

theorem piecesAll_eq_map (es : List Expr) : piecesAll es = es.map pieces := by
  induction es with
  | nil => rfl
  | cons e es ih => simp only [piecesAll, List.map_cons, ih]

theorem arePlain_eq_all (es : List Expr) : arePlain es = es.all isPlain := by
  induction es with
  | nil => rfl
  | cons e es ih => simp only [arePlain, List.all_cons, ih]

theorem isPlain_form {head : Form} {operands : List Expr} :
    (form head operands).isPlain = true ↔
      head.isPlain operands.length = true ∧ ∀ e ∈ operands, e.isPlain = true := by
  rw [isPlain, Bool.and_eq_true, arePlain_eq_all, List.all_eq_true]

theorem isPlain_literal (value : Literal) :
    (form (.literal value) []).isPlain = value.isPlain := by
  simp [isPlain, Form.isPlain, arePlain]

theorem plainWith_operands {head : Form} {operands : List Expr}
    (h : (form head operands).isPlain = true) :
    head.PlainWith operands ∧ ∀ e ∈ operands, e.isPlain = true := by
  obtain ⟨hhead, hoperands⟩ := isPlain_form.1 h
  exact ⟨Form.plainWith_of_isPlain hhead, hoperands⟩

theorem namesIn_eq_flatMap (es : List Expr) : namesIn es = es.flatMap names := by
  induction es with
  | nil => rfl
  | cons e es ih => simp only [namesIn, List.flatMap_cons, ih]

end Expr

end GeoLayers.Sql
