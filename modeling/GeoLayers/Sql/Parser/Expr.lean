import GeoLayers.Sql.Parser.DataType

/-!
The grammar of expressions. An expression is read by the binding strength of its operators: an
operand, then as long as the next operator binds more strongly than `least`, the operator with
what stands behind it. Everything that contains a complete expression or a query reads it with a
`Grammar`, the grammar of one level less of nesting; the levels are stacked in `Parser.Query`.
-/

namespace GeoLayers.Sql.Parser

/-- How nested expressions and queries are read. -/
structure Grammar where
  /-- An expression whose operators bind more strongly than the given strength. -/
  expr : Nat → Parser Expr
  query : Parser Expr

/-- How strongly the operators bind. -/
abbrev orStrength : Nat := 10
abbrev andStrength : Nat := 20
abbrev notStrength : Nat := 30
abbrev isStrength : Nat := 40
abbrev compareStrength : Nat := 50
abbrev likeStrength : Nat := 60
abbrev otherStrength : Nat := 70
abbrev xorStrength : Nat := 75
abbrev sumStrength : Nat := 80
abbrev productStrength : Nat := 90
abbrev powerStrength : Nat := 100
abbrev zoneStrength : Nat := 110
abbrev collateStrength : Nat := 120
abbrev bracketStrength : Nat := 130
abbrev castStrength : Nat := 140
abbrev periodStrength : Nat := 200

/-- How strongly a symbol between operands binds; zero for what is no operator. -/
def Symbol.strength : Symbol → Nat
  | .lBracket => bracketStrength
  | .arrow | .longArrow | .hashArrow | .hashLongArrow | .atArrow | .arrowAt | .hashMinus
  | .atQuestion | .atAt | .question | .questionAnd | .questionPipe | .bang | .overlap | .caretAt
  | .concat | .sharp | .shiftRight | .shiftLeft | .ampersand | .pipe | .questionDash
  | .doubleSharp | .ampLt | .ampGt | .questionDashPipe | .ampLtPipe | .pipeAmpGt | .twoWayArrow
  | .ltCaret | .gtCaret | .questionSharp | .questionDoublePipe | .tildeEq | .atSign
  | .shiftLeftPipe | .pipeShiftRight => otherStrength
  | .period => periodStrength
  | .assignment | .eq | .lt | .ltEq | .neq | .gt | .gtEq | .doubleEq | .tilde | .tildeStar
  | .bangTilde | .bangTildeStar | .doubleTilde | .doubleTildeStar | .bangDoubleTilde
  | .bangDoubleTildeStar | .spaceship => compareStrength
  | .caret => powerStrength
  | .plus | .minus => sumStrength
  | .mul | .div | .percent => productStrength
  | .doubleColon => castStrength
  | _ => 0

/-- How strongly the operator in front binds. -/
def strength (ts : List Token) : Nat :=
  match ts with
  | .symbol s :: _ => Symbol.strength s
  | .operator _ :: _ => otherStrength
  | .word w :: rest =>
    match w.keyword with
    | some .COLLATE => collateStrength
    | some .OR => orStrength
    | some .AND => andStrength
    | some .XOR => xorStrength
    | some .AT => if (afterKeywords [.TIME, .ZONE] rest).isSome then zoneStrength else 0
    | some .NOT =>
      match rest.head?.bind Token.keyword? with
      | some .IN | some .BETWEEN | some .LIKE | some .ILIKE | some .RLIKE | some .REGEXP
      | some .SIMILAR => likeStrength
      | _ => 0
    | some .IS => isStrength
    | some .IN | some .BETWEEN | some .OVERLAPS | some .LIKE | some .ILIKE | some .RLIKE
    | some .REGEXP | some .SIMILAR | some .OPERATOR => likeStrength
    | some .DIV => productStrength
    | _ => 0
  | _ => 0

/-- The operator that a symbol between operands is. -/
def binarySymbol? : Symbol → Option BinaryOp
  | .doubleEq => some (.symbol .eq)
  | .bang | .doubleColon | .lBracket | .period => none
  | s => if Symbol.strength s = 0 then none else some (.symbol s)

/-- The operators that may compare with all or some elements of an array. -/
def BinaryOp.comparesElements : BinaryOp → Bool
  | .symbol s => s ∈ [.gt, .lt, .gtEq, .ltEq, .eq, .neq, .tilde, .tildeStar, .bangTilde,
      .bangTildeStar, .doubleTilde, .doubleTildeStar, .bangDoubleTilde, .bangDoubleTildeStar]
  | _ => false

/-- A construct without operands. -/
def leaf (head : Form) : Expr := .form head []

/-- Whether a query is in front. -/
def atQuery : Parser Bool := do
  match ← peekKeyword? with
  | some .SELECT | some .WITH => pure true
  | _ => pure false

/-- Some operands, each of which may be missing. -/
def given (operands : List (Option Expr)) : List Expr := operands.filterMap id

section Calls

variable (g : Grammar)

/-- What stands for an argument's value where it is no operand: `*` or `name.*`. Fails where a
period after a name is not followed by a name or a star. -/
def starLoop : Nat → Parser (Option (List Ident))
  | 0 => fail
  | fuel + 1 => do
    if ← symbol? .period then
      match ← next with
      | .word w => do
        let more ← starLoop fuel
        pure (more.map (w.ident :: ·))
      | .text .plain body => do
        let more ← starLoop fuel
        pure (more.map (⟨body, .single⟩ :: ·))
      | .symbol .mul => pure (some [])
      | _ => fail
    else pure none

/-- A star in the place of a value, if there is one. -/
def star? : Parser (Option ArgValue) := fun ts =>
  let start (name : Ident) (rest : List Token) : Except Fault (Option ArgValue × List Token) :=
    match starLoop (rest.length + 1) rest with
    | .ok (some names, rest) => .ok (some (.wildcard (name :: names)), rest)
    | .ok (none, _) => .ok (none, ts)
    | .error fault => .error fault
  match ts with
  | .symbol .mul :: rest => .ok (some .star, rest)
  | .word w :: rest => start w.ident rest
  | .text .plain body :: rest => start ⟨body, .single⟩ rest
  | _ => .ok (none, ts)

/-- A value of an argument, with its operand. -/
def argValue : Parser (ArgValue × List Expr) := do
  match ← star? with
  | some value => pure (value, [])
  | none =>
    match ← g.expr 0 with
    | .form (.wildcard qualifier) [] => pure (.wildcard qualifier, [])
    | e => pure (.operand, [e])

/-- What joins an argument's name to its value, if it is in front. -/
def argOperator? : Parser (Option ArgOperator) := do
  if ← keyword? .VALUE then pure (some .value)
  else if ← symbol? .rArrow then pure (some .rArrow)
  else if ← symbol? .colon then pure (some .colon)
  else pure none

/-- An argument. The expression in front is its name if an operator and a value follow. -/
def argument : Parser (ArgForm × List Expr) := fun ts =>
  let named : Except Fault (Option (ArgForm × List Expr) × List Token) :=
    attempt (do
      let name ← g.expr 0
      match ← argOperator? with
      | some operator =>
        let (value, operands) ← argValue g
        pure (ArgForm.named operator value, name :: operands)
      | none => fail) ts
  match named with
  | .error fault => .error fault
  | .ok (some arg, rest) => .ok (arg, rest)
  | .ok (none, _) =>
    match argValue g ts with
    | .error fault => .error fault
    | .ok ((value, operands), rest) => .ok ((.unnamed value, operands), rest)

/-- What is done with nulls in an array or object, if it is said. -/
def nullClause? : Parser (Option ArgClause) := do
  if ← keywords? [.ABSENT, .ON, .NULL] then pure (some .absentOnNull)
  else if ← keywords? [.NULL, .ON, .NULL] then pure (some .nullOnNull)
  else pure none

/-- What is done with an overflow, if it is said. -/
def overflow? : Parser (Option (ArgClause × List Expr)) := do
  if ← keywords? [.ON, .OVERFLOW] then
    if ← keyword? .ERROR then pure (some (.overflowError, []))
    else
      keyword .TRUNCATE
      let filler ← do
        match ← peek? with
        | some (.word w) =>
          if w.keyword = some .WITH || w.keyword = some .WITHOUT then pure none else fail
        | some (.text .bits _) | some (.text .doubleBits _) => fail
        | some (.text _ _) => some <$> g.expr 0
        | _ => fail
      let withCount ← keyword? .WITH
      if !withCount then keyword .WITHOUT
      keyword .COUNT
      pure (some (.overflowTruncate filler.isSome withCount, given [filler]))
  else pure none

/-- The arguments of a call after the opening bracket, up to the closing one. -/
def argList : Parser (ArgList × List Expr) := do
  let first ← nullClause?
  if ← symbol? .rParen then pure (⟨none, [], first.toList⟩, [])
  else
    let all ← keyword? .ALL
    let distinct ← keyword? .DISTINCT
    if all && distinct then fail
    let treatment :=
      if all then some Treatment.all else if distinct then some Treatment.distinct else none
    let args ← commaSeparated (argument g)
    let overflow ← overflow? g
    let last ← nullClause?
    symbol .rParen
    let clauses := first.toList ++ (overflow.map Prod.fst).toList ++ last.toList
    let operands := args.flatMap Prod.snd ++ (overflow.map Prod.snd).getD []
    pure (⟨treatment, args.map Prod.fst, clauses⟩, operands)

def frameDirection : Parser FrameDirection := do
  if ← keyword? .PRECEDING then pure .preceding
  else
    keyword .FOLLOWING
    pure .following

/-- A bound of a window frame. `interval` reads an interval without its keyword. -/
def frameBound (interval : Parser Expr) : Parser (FrameBound × List Expr) := do
  if ← keywords? [.CURRENT, .ROW] then pure (.currentRow, [])
  else if ← keyword? .UNBOUNDED then
    let direction ← frameDirection
    pure (.unbounded direction, [])
  else
    let distance ← do
      match ← peek? with
      | some (.text .plain _) => interval
      | _ => g.expr 0
    let direction ← frameDirection
    pure (.offset direction, [distance])

/-- A window frame. -/
def frame (interval : Parser Expr) : Parser (Frame × List Expr) := do
  let units ← do
    match ← oneOf? [.ROWS, .RANGE, .GROUPS] with
    | some .ROWS => pure FrameUnits.rows
    | some .RANGE => pure FrameUnits.range
    | some .GROUPS => pure FrameUnits.groups
    | _ => fail
  if ← keyword? .BETWEEN then
    let (first, before) ← frameBound g interval
    keyword .AND
    let (last, after) ← frameBound g interval
    pure (⟨units, first, some last⟩, before ++ after)
  else
    let (first, operands) ← frameBound g interval
    pure (⟨units, first, none⟩, operands)

/-- A window after `OVER`. -/
def window (interval : Parser Expr) : Parser (Window × List Expr) := do
  if ← symbol? .lParen then
    let name ← do
      match ← peek? with
      | some (.word w) => if w.keyword.isNone then some <$> ident else pure none
      | _ => pure none
    let partitions ← do
      if ← keywords? [.PARTITION, .BY] then commaSeparated (g.expr 0) else pure []
    if ← symbol? .rParen then pure (.spec name partitions.length none, partitions)
    else
      let (found, bounds) ← frame g interval
      symbol .rParen
      pure (.spec name partitions.length (some found), partitions ++ bounds)
  else
    let name ← ident
    pure (.named name, [])

/-- The filter of a call. The keyword counts as read even where no filter follows it. -/
def filter? : Parser (Option Expr) := do
  if ← keyword? .FILTER then
    if ← symbol? .lParen then
      if ← keyword? .WHERE then
        let condition ← g.expr 0
        symbol .rParen
        pure (some condition)
      else pure none
    else pure none
  else pure none

/-- A call of a named function, from its opening bracket on. -/
def functionCall (interval : Parser Expr) (name : List Ident) : Parser (Call × List Expr) := do
  symbol .lParen
  let (list, operands) ← argList g
  -- Rows within a group are always ordered, and ordering is a clause.
  if ← keywords? [.WITHIN, .GROUP] then fail
  let condition ← filter? g
  let nulls ← do
    match ← oneOf? [.RESPECT, .IGNORE] with
    | some .RESPECT => do
      keyword .NULLS
      pure (some NullTreatment.respect)
    | some _ => do
      keyword .NULLS
      pure (some NullTreatment.ignore)
    | none => pure none
  let frame ← whenever (keyword? .OVER) (window g interval)
  let call : Call := {
    name := name, arguments := some list, filtered := condition.isSome, nulls := nulls,
    window := frame.map Prod.fst }
  pure (call, operands ++ given [condition] ++ (frame.map Prod.snd).getD [])

def functionExpr (interval : Parser Expr) (name : List Ident) : Parser Expr := do
  let (call, operands) ← functionCall g interval name
  pure (.form (.call call) operands)

end Calls

section Special

variable (g : Grammar)

/-- `CASE` after its keyword. -/
def caseBranches : Nat → Parser (List Expr)
  | 0 => fail
  | fuel + 1 => do
    let condition ← g.expr 0
    keyword .THEN
    let result ← g.expr 0
    if ← keyword? .WHEN then
      let more ← caseBranches fuel
      pure (condition :: result :: more)
    else pure [condition, result]

def caseExpr : Parser Expr := do
  let operand ← do
    if ← keyword? .WHEN then pure none
    else
      let e ← g.expr 0
      keyword .WHEN
      pure (some e)
  let branches ← fun ts => caseBranches g (ts.length + 1) ts
  let otherwise ← whenever (keyword? .ELSE) (g.expr 0)
  keyword .END
  pure (.form (.case operand.isSome (branches.length / 2) otherwise.isSome)
    (given [operand] ++ branches ++ given [otherwise]))

/-- `CONVERT` after its keyword. -/
def convertExpr : Parser Expr := bracketed do
  let e ← g.expr 0
  if ← keyword? .USING then
    let charset ← path
    pure (.form (.convert (.charset charset)) [e])
  else
    symbol .comma
    let type ← dataType
    let charset ← do
      if ← keyword? .CHARACTER then
        if ← keyword? .SET then some <$> path else fail
      else pure none
    pure (.form (.convert (.type type charset)) [e])

/-- A cast after its keyword. -/
def castExpr (kind : CastKind) : Parser Expr := bracketed do
  let e ← g.expr 0
  keyword .AS
  let type ← dataType
  let format ← whenever (keyword? .FORMAT) do
    let format ← literal
    let zone ← whenever (keywords? [.AT, .TIME, .ZONE]) literal
    pure (CastFormat.mk format zone)
  pure (.form (.cast kind type format) [e])

/-- `EXISTS` after its keyword. -/
def existsExpr (negated : Bool) : Parser Expr := bracketed do
  let q ← g.query
  pure (.form (.exists negated) [q])

/-- `EXTRACT` after its keyword. -/
def extractExpr : Parser Expr := bracketed do
  let field ← dateField
  keyword .FROM
  let e ← g.expr 0
  pure (.form (.extract field) [e])

/-- `CEIL` or `FLOOR` after its keyword. -/
def roundExpr (up : Bool) : Parser Expr := bracketed do
  let e ← g.expr 0
  if ← keyword? .TO then
    let field ← dateField
    pure (.form (.round up (.field field)) [e])
  else if ← symbol? .comma then
    match ← literal with
    | .number digits long => pure (.form (.round up (.scale (.number digits long))) [e])
    | _ => fail
  else pure (.form (.round up .whole) [e])

/-- `POSITION` after its keyword; without `IN` it is a plain call. -/
def positionExpr (interval : Parser Expr) (name : Ident) : Parser Expr := do
  let found ← attempt (bracketed do
    let e ← g.expr likeStrength
    keyword .IN
    let whole ← g.expr 0
    pure (Expr.form .position [e, whole]))
  match found with
  | some e => pure e
  | none => functionExpr g interval [name]

/-- `SUBSTRING` after its keyword. -/
def substringExpr : Parser Expr := bracketed do
  let e ← g.expr 0
  let comma ← symbol? .comma
  let start ← do
    if comma then some <$> g.expr 0 else whenever (keyword? .FROM) (g.expr 0)
  let length ← do
    if ← keyword? .FOR then some <$> g.expr 0 else whenever (symbol? .comma) (g.expr 0)
  pure (.form (.substring comma start.isSome length.isSome) ([e] ++ given [start, length]))

/-- `OVERLAY` after its keyword. -/
def overlayExpr : Parser Expr := bracketed do
  let e ← g.expr 0
  keyword .PLACING
  let what ← g.expr 0
  keyword .FROM
  let start ← g.expr 0
  let length ← whenever (keyword? .FOR) (g.expr 0)
  pure (.form (.overlay length.isSome) ([e, what, start] ++ given [length]))

/-- `TRIM` after its keyword. -/
def trimExpr : Parser Expr := bracketed do
  let side ← do
    match ← oneOf? [.BOTH, .LEADING, .TRAILING] with
    | some .BOTH => pure (some TrimSide.both)
    | some .LEADING => pure (some TrimSide.leading)
    | some .TRAILING => pure (some TrimSide.trailing)
    | _ => pure none
  let e ← g.expr 0
  if ← keyword? .FROM then
    let whole ← g.expr 0
    pure (.form (.trim side true) [e, whole])
  else pure (.form (.trim side false) [e])

/-- An interval after its keyword: a value read by `value`, then the fields it is in. -/
def intervalExpr (value : Parser Expr) : Parser Expr := do
  let e ← value
  let leading ← do
    match ← peekKeyword? with
    | some k => if k ∈ intervalUnits then some <$> dateField else pure none
    | none => pure none
  if leading = some (.known "SECOND") then
    match ← precisionScale? with
    | none => pure (.form (.interval { leading := leading }) [e])
    | some (n, fraction) =>
      pure (.form (.interval { leading := leading, leadingPrecision := some n, fraction }) [e])
  else
    let leadingPrecision ← precision?
    if ← keyword? .TO then
      let last ← dateField
      let fraction ← if last = .known "SECOND" then precision? else pure none
      pure (.form (.interval { leading, leadingPrecision, last := some last, fraction }) [e])
    else pure (.form (.interval { leading, leadingPrecision }) [e])

/-- The elements of an array after its opening bracket. -/
def arrayExpr (named : Bool) : Parser Expr := do
  let items ← do
    if ← peekSymbol .rBracket then pure [] else commaSeparated (g.expr 0)
  symbol .rBracket
  pure (.form (.array named) items)

/-- An array made of a query's rows, from its opening bracket on. -/
def arrayQueryExpr (name : Ident) : Parser Expr := do
  let q ← bracketed g.query
  pure (.form (.arrayQuery [name]) [q])

/-- `NOT` after its keyword. -/
def notExpr : Parser Expr := do
  if ← keyword? .EXISTS then existsExpr g true
  else
    let e ← g.expr notStrength
    pure (.form (.unary .not) [e])

/-- A function that is called without brackets unless it has a precision. -/
def clockExpr (name : Ident) : Parser Expr := do
  if ← symbol? .lParen then
    let (list, operands) ← argList g
    pure (.form (.call { name := [name], arguments := some list }) operands)
  else pure (leaf (.call { name := [name], arguments := none }))

/-- A constant of a geometric type after the type's name. -/
def geometricText (name : String) : Parser (Option Expr) := do
  let value ← literal
  pure (some (leaf (.typedText (.known name [] "") value)))

/-- What a keyword in front of an operand starts, if it starts anything. The keyword has been
read; `value` reads an operand. -/
def special? (value : Parser Expr) (w : Word) : Parser (Option Expr) := do
  let interval := intervalExpr value
  match w.keyword with
  | some .TRUE => pure (some (leaf (.literal (.boolean true))))
  | some .FALSE => pure (some (leaf (.literal (.boolean false))))
  | some .NULL => pure (some (leaf (.literal .null)))
  | some .CURRENT_CATALOG | some .CURRENT_USER | some .SESSION_USER | some .USER =>
    pure (some (leaf (.call { name := [w.ident], arguments := none })))
  | some .CURRENT_TIMESTAMP | some .CURRENT_TIME | some .CURRENT_DATE | some .LOCALTIME
  | some .LOCALTIMESTAMP => some <$> clockExpr g w.ident
  | some .CASE => some <$> caseExpr g
  | some .CONVERT => some <$> convertExpr g
  | some .CAST => some <$> castExpr g .cast
  | some .TRY_CAST => some <$> castExpr g .tryCast
  | some .SAFE_CAST => some <$> castExpr g .safeCast
  | some .EXISTS => some <$> existsExpr g false
  | some .EXTRACT => some <$> extractExpr g
  | some .CEIL => some <$> roundExpr g true
  | some .FLOOR => some <$> roundExpr g false
  | some .POSITION => do
    if ← peekSymbol .lParen then some <$> positionExpr g interval w.ident else pure none
  | some .SUBSTRING => some <$> substringExpr g
  | some .OVERLAY => some <$> overlayExpr g
  | some .TRIM => some <$> trimExpr g
  | some .INTERVAL => some <$> interval
  | some .ARRAY => do
    if ← symbol? .lBracket then some <$> arrayExpr g true
    else if ← peekSymbol .lParen then some <$> arrayQueryExpr g w.ident
    else pure none
  | some .NOT => some <$> notExpr g
  | some .CIRCLE => geometricText "circle"
  | some .BOX => geometricText "box"
  | some .PATH => geometricText "path"
  | some .LINE => geometricText "line"
  | some .LSEG => geometricText "lseg"
  | some .POINT => geometricText "point"
  | some .POLYGON => geometricText "polygon"
  | _ => pure none

/-- A word with no special meaning: a call, a constant with an introducer, or a column. -/
def plainWord (value : Parser Expr) (w : Word) : Parser Expr := do
  match ← peek? with
  | some (.symbol .lParen) => functionExpr g (intervalExpr value) [w.ident]
  | some (.text .plain body) => introduced (.text .plain body)
  | some (.text .hex body) => introduced (.text .hex body)
  | _ => pure (.column w.ident)
where
  introduced (body : Literal) : Parser Expr := do
    if w.value.startsWith "_" then
      let _ ← next
      pure (leaf (.introduced w.ident body))
    else pure (.column w.ident)

/-- The keywords that are never names. -/
def isReserved (k : Option Keyword) : Bool :=
  k == some .EXISTS || k == some .INTERVAL || k == some .TRIM

/-- An operand that starts with a word, and whether a collation may follow. Where the special
meaning of the word does not fit what follows, the word is tried as a plain one. -/
def wordOperand (value : Parser Expr) (w : Word) : Parser (Expr × Bool) := fun ts =>
  match special? g value w ts with
  | .ok (some e, rest) => .ok ((e, true), rest)
  | .ok (none, _) => (plainWord g value w ts).map fun (e, rest) => ((e, true), rest)
  | .error fault =>
    if isReserved w.keyword then .error fault
    else match plainWord g value w ts with
      | .ok (e, rest) => .ok ((e, false), rest)
      | .error _ => .error fault

/-- What an opening round bracket starts: a query, one expression, or several. -/
def bracketOperand : Parser Expr := do
  if ← atQuery then
    let q ← g.query
    symbol .rParen
    pure (.form .subquery [q])
  else
    let items ← commaSeparated (g.expr 0)
    symbol .rParen
    match items with
    | [e] => pure (.form .nested [e])
    | items => pure (.form .tuple items)

/-- What an opening brace starts: a call. -/
def braceOperand (value : Parser Expr) : Parser Expr := do
  keyword .FN
  let name ← path
  let (call, operands) ← functionCall g (intervalExpr value) name
  symbol .rBrace
  pure (.form (.call { call with braced := true }) operands)

/-- A constant with its type in front, or an interval. No custom type takes part. -/
def typedText (value : Parser Expr) : Parser Expr := do
  match ← dataType with
  | .known "INTERVAL" _ _ => intervalExpr value
  | .custom _ _ => fail
  | type =>
    let body ← literal
    pure (leaf (.typedText type body))

/-- An operator before its operand. -/
def signed (op : UnaryOp) (strength : Nat) : Parser Expr := do
  let e ← g.expr strength
  pure (.form (.unary op) [e])

/-- A constant that starts with a token already read. -/
def constant (t : Token) : Parser Expr := fun ts =>
  (literal (t :: ts)).map fun (value, rest) => (leaf (.literal value), rest)

/-- What an operand that starts with a token already read is. -/
def tokenOperand (value : Parser Expr) : Token → Parser (Expr × Bool)
  | .word w => wordOperand g value w
  | .symbol .lBracket => (·, true) <$> arrayExpr g false
  | .symbol .minus => (·, true) <$> signed g .minus productStrength
  | .symbol .plus => (·, true) <$> signed g .plus productStrength
  | .symbol .doubleBang => (·, true) <$> signed g .doubleBang sumStrength
  | .symbol .squareRoot => (·, true) <$> signed g .squareRoot sumStrength
  | .symbol .cubeRoot => (·, true) <$> signed g .cubeRoot sumStrength
  | .symbol .atSign => (·, true) <$> signed g .abs sumStrength
  | .symbol .tilde => (·, true) <$> signed g .bitNot sumStrength
  | .symbol .sharp => (·, true) <$> signed g .hash sumStrength
  | .symbol .atDashAt => (·, true) <$> signed g .atDashAt sumStrength
  | .symbol .atAt => (·, true) <$> signed g .atAt sumStrength
  | .symbol .questionDash => (·, true) <$> signed g .questionDash sumStrength
  | .symbol .questionPipe => (·, true) <$> signed g .questionPipe sumStrength
  | .symbol .lParen => (·, true) <$> bracketOperand g
  | .symbol .lBrace => (·, true) <$> braceOperand g value
  | .symbol .colon => (·, true) <$> constant (.symbol .colon)
  | .number digits long => (·, true) <$> constant (.number digits long)
  | .text kind body => (·, true) <$> constant (.text kind body)
  | .dollarText tag body => (·, true) <$> constant (.dollarText tag body)
  | .placeholder name => (·, true) <$> constant (.placeholder name)
  | _ => fail

/-- An operand. The value of an interval is again an operand; `fuel` bounds that nesting. -/
def operandWith : Nat → Parser Expr
  | 0 => fail
  | fuel + 1 => do
    match ← attempt (typedText (operandWith fuel)) with
    | some e => pure e
    | none =>
      let t ← next
      let (e, collatable) ← tokenOperand g (operandWith fuel) t
      if collatable then
        if ← keyword? .COLLATE then
          let collation ← path
          pure (.form (.collate collation) [e])
        else pure e
      else pure e

def operand : Parser Expr := fun ts => operandWith g (ts.length + 1) ts

end Special

section Access

variable (g : Grammar)

/-- A link of an access chain: a step with its operands. -/
abbrev Link := AccessStep × List Expr

/-- What stands between square brackets after an operand. -/
def subscript : Parser Link := do
  let lower ← do
    if ← symbol? .colon then pure none else some <$> g.expr 0
  if ← symbol? .rBracket then
    match lower with
    | some index => pure (.index, [index])
    | none => pure (.slice false false false, [])
  else
    if lower.isSome then symbol .colon
    if ← symbol? .rBracket then pure (.slice lower.isSome false false, given [lower])
    else
      let upper ← g.expr 0
      if ← symbol? .rBracket then pure (.slice lower.isSome true false, given [lower, some upper])
      else
        symbol .colon
        if ← symbol? .rBracket then
          pure (.slice lower.isSome true false, given [lower, some upper])
        else
          let stride ← g.expr 0
          symbol .rBracket
          pure (.slice lower.isSome true true, given [lower, some upper, some stride])

/-- The steps of a chain with the operands that belong to each. -/
def splitLinks : List AccessStep → List Expr → List Link
  | [], _ => []
  | step :: steps, operands =>
    let count := match step with
      | .dot | .index => 1
      | .slice lower upper stride => lower.toNat + upper.toNat + stride.toNat
    (step, operands.take count) :: splitLinks steps (operands.drop count)

/-- The links that an expression after a period is; a chain and a path are joined to the chain
that they follow. -/
def linksAfterPeriod : Expr → List Link
  | .path parts => parts.map fun name => (.dot, [.column name])
  | .form (.access steps) (root :: operands) => (.dot, [root]) :: splitLinks steps operands
  | e => [(.dot, [e])]

/-- The links of a chain, and whether it ends with a star. -/
def chain : Nat → Parser (List Link × Bool)
  | 0 => fail
  | fuel + 1 => do
    if ← symbol? .period then
      if ← symbol? .mul then pure ([], true)
      else
        let links ← do
          match ← peek? with
          | some (.text .plain body) => do
            let _ ← next
            pure [(AccessStep.dot, [Expr.column ⟨body, .single⟩])]
          | _ => linksAfterPeriod <$> g.expr periodStrength
        let (more, starred) ← chain fuel
        pure (links ++ more, starred)
    else if ← symbol? .lBracket then
      let link ← subscript g
      let (more, starred) ← chain fuel
      pure (link :: more, starred)
    else pure ([], false)

/-- The name that a link adds to a path. -/
def Link.name? : Link → Option Ident
  | (.dot, [.column name]) => some name
  | _ => none

/-- The names of a chain that is a path. -/
def names? (root : Expr) (links : List Link) : Option (List Ident) :=
  match root with
  | .column name => (links.mapM Link.name?).map (name :: ·)
  | _ => none

/-- A call whose name is the rest of a path. -/
def qualifiedCall? (root : Expr) (links : List Link) : Option Expr := do
  let last ← links.getLast?
  let names ← names? root links.dropLast
  match last with
  | (.dot, [.form (.call c) operands]) =>
    pure (.form (.call { c with name := names ++ c.name }) operands)
  | (.dot, [.form (.arrayQuery name) operands]) =>
    pure (.form (.arrayQuery (names ++ name)) operands)
  | _ => none

/-- The expression that a root with a chain of links is. -/
def joined (root : Expr) (links : List Link) : Expr :=
  if links.isEmpty then root
  else match names? root links with
    | some names => .path names
    | none =>
      match qualifiedCall? root links with
      | some e => e
      | none => .form (.access (links.map Prod.fst)) (root :: links.flatMap Prod.snd)

/-- What follows an operand with periods and square brackets. -/
def accessed (root : Expr) : Parser Expr := do
  let (links, starred) ← fun ts => chain g (ts.length + 1) ts
  if starred then
    match names? root links with
    | some names => pure (leaf (.wildcard names))
    | none => fail
  else pure (joined root links)

end Access

section Infix

variable (g : Grammar)

/-- What `IS` tests, after the keyword. -/
def isTest (e : Expr) : Parser Expr := do
  let simple (negated : Bool) : Parser (Option Expr) := do
    match ← oneOf? [.NULL, .TRUE, .FALSE, .UNKNOWN] with
    | some .NULL => pure (some (.form (.test negated .null) [e]))
    | some .TRUE => pure (some (.form (.test negated .true) [e]))
    | some .FALSE => pure (some (.form (.test negated .false) [e]))
    | some _ => pure (some (.form (.test negated .unknown) [e]))
    | none =>
      if ← keywords? [.DISTINCT, .FROM] then
        let other ← g.expr 0
        pure (some (.form (.distinctFrom negated) [e, other]))
      else pure none
  let negated ← keyword? .NOT
  match ← simple negated with
  | some found => pure found
  | none =>
    let form ← do
      match ← oneOf? [.NFC, .NFD, .NFKC, .NFKD] with
      | some .NFC => pure (some Normalization.nfc)
      | some .NFD => pure (some Normalization.nfd)
      | some .NFKC => pure (some Normalization.nfkc)
      | some _ => pure (some Normalization.nfkd)
      | none => pure none
    keyword .NORMALIZED
    pure (.form (.test negated (.normalized form)) [e])

/-- What follows `IN`. -/
def inExpr (e : Expr) (negated : Bool) : Parser Expr := do
  if ← keyword? .UNNEST then
    let array ← bracketed (g.expr 0)
    pure (.form (.inUnnest negated) [e, array])
  else bracketed do
    if ← atQuery then
      let q ← g.query
      pure (.form (.inQuery negated) [e, q])
    else
      let items ← commaSeparated (g.expr 0)
      pure (.form (.inList negated) (e :: items))

/-- The escape character of a pattern, if one is named. -/
def escape? : Parser (Option String) := whenever (keyword? .ESCAPE) textBody

/-- What follows a keyword for likeness. -/
def likeExpr (kind : LikeKind) (e : Expr) (negated : Bool) : Parser Expr := do
  let any ← do
    match kind with
    | .similar => pure false
    | _ => keyword? .ANY
  let pattern ← g.expr likeStrength
  let escape ← escape?
  pure (.form (.like kind negated any escape) [e, pattern])

/-- The tests for membership, range and likeness, with `NOT` in front or not. -/
def rangeTest (e : Expr) : Parser Expr := do
  let negated ← keyword? .NOT
  let regexp ← keyword? .REGEXP
  let rlike ← keyword? .RLIKE
  if regexp || rlike then
    let pattern ← g.expr likeStrength
    pure (.form (.regexp negated !regexp) [e, pattern])
  else if ← keyword? .IN then inExpr g e negated
  else if ← keyword? .BETWEEN then
    let low ← g.expr likeStrength
    keyword .AND
    let high ← g.expr likeStrength
    pure (.form (.between negated) [e, low, high])
  else if ← keyword? .LIKE then likeExpr g .like e negated
  else if ← keyword? .ILIKE then likeExpr g .ilike e negated
  else if ← keywords? [.SIMILAR, .TO] then likeExpr g .similar e negated
  else fail

/-- The parts of an operator given by its path, with periods between them. -/
def operatorPath : Nat → Parser (List String)
  | 0 => fail
  | fuel + 1 => do
    let t ← next
    if ← symbol? .period then
      let more ← operatorPath fuel
      pure (t.spelling :: more)
    else pure [t.spelling]

/-- The operator between two operands in front, if there is one. -/
def binaryOp? : Parser (Option BinaryOp) := fun ts =>
  match ts with
  | .symbol s :: rest =>
    match binarySymbol? s with
    | some op => .ok (some op, rest)
    | none => .ok (none, ts)
  | .operator run :: rest => .ok (some (.custom run), rest)
  | .word w :: rest =>
    match w.keyword with
    | some .AND => .ok (some .and, rest)
    | some .OR => .ok (some .or, rest)
    | some .XOR => .ok (some .xor, rest)
    | some .OVERLAPS => .ok (some .overlaps, rest)
    | some .OPERATOR =>
      (bracketed (operatorPath (rest.length + 1)) rest).map fun (parts, rest) =>
        (some (.path parts), rest)
    | _ => .ok (none, ts)
  | _ => .ok (none, ts)

/-- The right side of an operator. -/
def rightSide (e : Expr) (op : BinaryOp) (strength : Nat) : Parser Expr := do
  match ← oneOf? [.ANY, .ALL, .SOME] with
  | some k =>
    let right ← do
      match ← peekAt? 1 with
      | some t =>
        if (← peekSymbol .lParen) && (t.keyword? = some .SELECT || t.keyword? = some .WITH) then
          g.expr strength
        else bracketed (g.expr strength)
      | none => fail
    if BinaryOp.comparesElements op then
      let quantifier := match k with
        | .ALL => Quantifier.all
        | .ANY => Quantifier.any
        | _ => Quantifier.some
      pure (.form (.quantified op quantifier) [e, right])
    else fail
  | none =>
    let right ← g.expr strength
    pure (.form (.binary op) [e, right])

/-- An operator after the operand `e` with what it needs; `strength` is the operator's. -/
def extended (e : Expr) (strength : Nat) : Parser Expr := do
  match ← binaryOp? with
  | some op => rightSide g e op strength
  | none =>
    match ← peekKeyword? with
    | some .IS =>
      let _ ← next
      isTest g e
    | some .AT =>
      keywords [.AT, .TIME, .ZONE]
      let zone ← g.expr strength
      pure (.form .atTimeZone [e, zone])
    | some .NOT | some .IN | some .BETWEEN | some .LIKE | some .ILIKE | some .SIMILAR
    | some .REGEXP | some .RLIKE => rangeTest g e
    | some _ => fail
    | none =>
      if ← symbol? .doubleColon then
        let type ← dataType
        pure (.form (.cast .doubleColon type none) [e])
      else if ← symbol? .bang then pure (.form (.unary .factorial) [e])
      else fail

/-- Extends an expression as long as the next operator binds more strongly than `least`. -/
def extendedLoop (least : Nat) : Nat → Expr → Parser Expr
  | 0, _ => fail
  | fuel + 1, e => fun ts =>
    let next := strength ts
    if next ≤ least || ts.head? == some (.symbol .period) then .ok (e, ts)
    else (extended g e next >>= extendedLoop least fuel) ts

/-- An expression whose operators bind more strongly than `least`. -/
def exprAbove (least : Nat) : Parser Expr := do
  let e ← operand g
  let e ← accessed g e
  fun ts => extendedLoop g least (ts.length + 1) e ts

end Infix

end GeoLayers.Sql.Parser
