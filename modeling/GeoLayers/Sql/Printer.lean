import GeoLayers.Sql.Expr

/-!
The text of expressions. Keywords are written in capitals and every construct in one way;
`Form.render` makes the text of a construct from the texts of its operands. Quotes inside quoted
texts are doubled unless they look escaped already (see `doubleQuotes`).
-/

namespace GeoLayers.Sql

/-- Doubles each quote of a body, but leaves a quote after a backslash and two quotes in a row as
they are. `before` is the character before the body. -/
def doubleQuotes (quote before : Char) : List Char → List Char
  | [] => []
  | c :: rest =>
    if c == quote then
      if before == '\\' then c :: doubleQuotes quote before rest
      else match rest with
        | c' :: rest' =>
          if c' == quote then c :: c' :: doubleQuotes quote quote rest'
          else c :: c :: doubleQuotes quote c (c' :: rest')
        | [] => [c, c]
    else c :: doubleQuotes quote c rest

/-- A body between quotes. -/
def between (quote : Char) (body : String) : String :=
  let inside := String.ofList (doubleQuotes quote (Char.ofNat 0) body.toList)
  quote.toString ++ inside ++ quote.toString

def Ident.render (name : Ident) : String :=
  match name.quote with
  | .bare => name.value
  | .double => between '"' name.value
  | .single => between '\'' name.value

/-- A dotted name. -/
def renderPath (parts : List Ident) : String := ".".intercalate (parts.map Ident.render)

/-- Items separated by a comma and a blank. -/
def commas (items : List String) : String := ", ".intercalate items

/-- How a character is written in an `E'…'` text. -/
def escapedChar : Char → List Char
  | '\'' => ['\\', '\'']
  | '\\' => ['\\', '\\']
  | '\n' => ['\\', 'n']
  | '\t' => ['\\', 't']
  | '\r' => ['\\', 'r']
  | c => [c]

/-- The last `width` hexadecimal digits of a number, in capitals. -/
def hexDigits : Nat → Nat → List Char
  | 0, _ => []
  | width + 1, n => hexDigits width (n / 16) ++ [(Nat.digitChar (n % 16)).toUpper]

/-- How a character is written in a `U&'…'` text. -/
def unicodeChar (c : Char) : List Char :=
  if c == '\'' then ['\'', '\'']
  else if c == '\\' then ['\\', '\\']
  else if c.toNat < 128 then [c]
  else if c.toNat ≤ 0xFFFF then '\\' :: hexDigits 4 c.toNat
  else '\\' :: '+' :: hexDigits 6 c.toNat

def Literal.render : Literal → String
  | .number digits long => if long then digits ++ "L" else digits
  | .text .plain body => between '\'' body
  | .text .national body => "N'" ++ body ++ "'"
  | .text .escaped body => "E'" ++ String.ofList (body.toList.flatMap escapedChar) ++ "'"
  | .text .unicode body => "U&'" ++ String.ofList (body.toList.flatMap unicodeChar) ++ "'"
  | .text .hex body => "X'" ++ body ++ "'"
  | .text .bits body => "B'" ++ body ++ "'"
  | .text .doubleBits body => "B\"" ++ body ++ "\""
  | .dollarText none body => "$$" ++ body ++ "$$"
  | .dollarText (some tag) body => "$" ++ tag ++ "$" ++ body ++ "$" ++ tag ++ "$"
  | .doubleQuoted body => between '"' body
  | .boolean value => if value then "true" else "false"
  | .null => "NULL"
  | .placeholder name => name

def DataType.render : DataType → String
  | .known name [] tail => name ++ tail
  | .known name args tail => name ++ "(" ++ ",".intercalate args ++ ")" ++ tail
  | .custom name [] => renderPath name
  | .custom name modifiers => renderPath name ++ "(" ++ commas modifiers ++ ")"
  | .array element none => element.render ++ "[]"
  | .array element (some size) => element.render ++ "[" ++ toString size ++ "]"
  | .angleArray element => "ARRAY<" ++ element.render ++ ">"

def BinaryOp.render : BinaryOp → String
  | .symbol s => s.text
  | .custom run => run
  | .and => "AND"
  | .or => "OR"
  | .xor => "XOR"
  | .overlaps => "OVERLAPS"
  | .path parts => "OPERATOR(" ++ ".".intercalate parts ++ ")"

def UnaryOp.render (op : UnaryOp) (operand : String) : String :=
  match op with
  | .plus => "+" ++ operand
  | .minus => "-" ++ operand
  | .not => "NOT " ++ operand
  | .bitNot => "~" ++ operand
  | .squareRoot => "|/" ++ operand
  | .cubeRoot => "||/" ++ operand
  | .factorial => operand ++ "!"
  | .doubleBang => "!!" ++ operand
  | .abs => "@" ++ operand
  | .hash => "# " ++ operand
  | .atDashAt => "@-@ " ++ operand
  | .atAt => "@@ " ++ operand
  | .questionDash => "?- " ++ operand
  | .questionPipe => "?| " ++ operand

def Normalization.render : Normalization → String
  | .nfc => "NFC"
  | .nfd => "NFD"
  | .nfkc => "NFKC"
  | .nfkd => "NFKD"

def Test.render : Test → String
  | .null => "NULL"
  | .true => "TRUE"
  | .false => "FALSE"
  | .unknown => "UNKNOWN"
  | .normalized none => "NORMALIZED"
  | .normalized (some form) => form.render ++ " NORMALIZED"

def LikeKind.render : LikeKind → String
  | .like => "LIKE"
  | .ilike => "ILIKE"
  | .similar => "SIMILAR TO"

def Quantifier.render : Quantifier → String
  | .all => "ALL"
  | .any => "ANY"
  | .some => "SOME"

def CastFormat.render (f : CastFormat) : String :=
  match f.zone with
  | none => f.format.render
  | some zone => f.format.render ++ " AT TIME ZONE " ++ zone.render

def ConvertTarget.render (target : ConvertTarget) (operand : String) : String :=
  match target with
  | .charset name => "CONVERT(" ++ operand ++ " USING " ++ renderPath name ++ ")"
  | .type ty none => "CONVERT(" ++ operand ++ ", " ++ ty.render ++ ")"
  | .type ty (some name) =>
    "CONVERT(" ++ operand ++ ", " ++ ty.render ++ " CHARACTER SET " ++ renderPath name ++ ")"

def DateField.render : DateField → String
  | .known name => name
  | .custom name => name.render

def TrimSide.render : TrimSide → String
  | .both => "BOTH"
  | .leading => "LEADING"
  | .trailing => "TRAILING"

def IntervalFields.render (fields : IntervalFields) : String :=
  match fields.leading, fields.leadingPrecision, fields.fraction with
  | some (.known "SECOND"), some precision, some fraction =>
    " SECOND (" ++ toString precision ++ ", " ++ toString fraction ++ ")"
  | _, _, _ =>
    let field (f : Option DateField) (before : String) :=
      match f with
      | some f => before ++ f.render
      | none => ""
    let digits (n : Option Nat) :=
      match n with
      | some n => " (" ++ toString n ++ ")"
      | none => ""
    field fields.leading " " ++ digits fields.leadingPrecision ++ field fields.last " TO " ++
      digits fields.fraction

/-- The first operand's text and the others. -/
def takeOperand : List String → String × List String
  | [] => ("", [])
  | t :: ts => (t, ts)

/-- The text of an operand that may be missing. -/
def takeOptional (there : Bool) (operands : List String) : String × List String :=
  if there then takeOperand operands else ("", operands)

def AccessStep.render : AccessStep → List String → String × List String
  | .dot, operands =>
    let (name, rest) := takeOperand operands
    ("." ++ name, rest)
  | .index, operands =>
    let (i, rest) := takeOperand operands
    ("[" ++ i ++ "]", rest)
  | .slice lower upper stride, operands =>
    let (first, rest) := takeOptional lower operands
    let (last, rest) := takeOptional upper rest
    let (step, rest) := takeOptional stride rest
    ("[" ++ first ++ ":" ++ last ++ (if stride then ":" ++ step else "") ++ "]", rest)

def renderSteps : List AccessStep → List String → String
  | [], _ => ""
  | step :: steps, operands =>
    let (text, rest) := step.render operands
    text ++ renderSteps steps rest

def ArgOperator.render : ArgOperator → String
  | .rArrow => "=>"
  | .assignment => ":="
  | .colon => ":"
  | .value => "VALUE"

def ArgValue.render : ArgValue → List String → String × List String
  | .operand, operands => takeOperand operands
  | .star, operands => ("*", operands)
  | .wildcard qualifier, operands => (renderPath qualifier ++ ".*", operands)

def ArgForm.render : ArgForm → List String → String × List String
  | .unnamed value, operands => value.render operands
  | .named operator value, operands =>
    let (name, rest) := takeOperand operands
    let (text, rest) := value.render rest
    (name ++ " " ++ operator.render ++ " " ++ text, rest)

def ArgClause.render : ArgClause → List String → String × List String
  | .absentOnNull, operands => ("ABSENT ON NULL", operands)
  | .nullOnNull, operands => ("NULL ON NULL", operands)
  | .overflowError, operands => ("ON OVERFLOW ERROR", operands)
  | .overflowTruncate filler withCount, operands =>
    let (text, rest) := takeOptional filler operands
    let count := if withCount then " WITH COUNT" else " WITHOUT COUNT"
    ("ON OVERFLOW TRUNCATE" ++ (if filler then " " ++ text else "") ++ count, rest)

/-- The texts of items that each take some of the operands. -/
def renderEach {α : Type} (render : α → List String → String × List String) :
    List α → List String → List String × List String
  | [], operands => ([], operands)
  | item :: items, operands =>
    let (text, rest) := render item operands
    let (texts, rest) := renderEach render items rest
    (text :: texts, rest)

def ArgList.render (list : ArgList) (operands : List String) : String × List String :=
  let treatment := match list.treatment with
    | none => ""
    | some .all => "ALL "
    | some .distinct => "DISTINCT "
  let (args, rest) := renderEach ArgForm.render list.args operands
  let (clauses, rest) := renderEach ArgClause.render list.clauses rest
  let gap := if clauses.isEmpty || args.isEmpty then "" else " "
  ("(" ++ treatment ++ commas args ++ gap ++ " ".intercalate clauses ++ ")", rest)

def FrameUnits.render : FrameUnits → String
  | .rows => "ROWS"
  | .range => "RANGE"
  | .groups => "GROUPS"

def FrameDirection.render : FrameDirection → String
  | .preceding => "PRECEDING"
  | .following => "FOLLOWING"

def FrameBound.render : FrameBound → List String → String × List String
  | .currentRow, operands => ("CURRENT ROW", operands)
  | .unbounded direction, operands => ("UNBOUNDED " ++ direction.render, operands)
  | .offset direction, operands =>
    let (distance, rest) := takeOperand operands
    (distance ++ " " ++ direction.render, rest)

def Frame.render (frame : Frame) (operands : List String) : String × List String :=
  let (first, rest) := frame.first.render operands
  match frame.last with
  | none => (frame.units.render ++ " " ++ first, rest)
  | some last =>
    let (last, rest) := last.render rest
    (frame.units.render ++ " BETWEEN " ++ first ++ " AND " ++ last, rest)

def Window.render : Window → List String → String
  | .named name, _ => name.render
  | .spec name partitions frame, operands =>
    let name := match name with
      | some name => [name.render]
      | none => []
    let partition :=
      if partitions = 0 then [] else ["PARTITION BY " ++ commas (operands.take partitions)]
    let frame := match frame with
      | some frame => [(frame.render (operands.drop partitions)).1]
      | none => []
    "(" ++ " ".intercalate (name ++ partition ++ frame) ++ ")"

def Call.render (call : Call) (operands : List String) : String :=
  let (arguments, rest) := match call.arguments with
    | none => ("", operands)
    | some list => list.render operands
  let (filter, rest) := takeOptional call.filtered rest
  let filter := if call.filtered then " FILTER (WHERE " ++ filter ++ ")" else ""
  let nulls := match call.nulls with
    | none => ""
    | some .ignore => " IGNORE NULLS"
    | some .respect => " RESPECT NULLS"
  let window := match call.window with
    | none => ""
    | some window => " OVER " ++ window.render rest
  let text := renderPath call.name ++ arguments ++ filter ++ nulls ++ window
  if call.braced then "\x7bfn " ++ text ++ "\x7d" else text

/-- Conditions and results in turn, each pair after its keywords. -/
def renderBranches : Nat → List String → String × List String
  | 0, operands => ("", operands)
  | n + 1, operands =>
    let (condition, rest) := takeOperand operands
    let (result, rest) := takeOperand rest
    let (more, rest) := renderBranches n rest
    (" WHEN " ++ condition ++ " THEN " ++ result ++ more, rest)

def renderCase (hasOperand : Bool) (branches : Nat) (hasElse : Bool) (operands : List String) :
    String :=
  let (operand, rest) := takeOptional hasOperand operands
  let (text, rest) := renderBranches branches rest
  let (otherwise, _) := takeOptional hasElse rest
  "CASE" ++ (if hasOperand then " " ++ operand else "") ++ text ++
    (if hasElse then " ELSE " ++ otherwise else "") ++ " END"

/-- Fixed texts and operands in turn. -/
def weave : List String → List String → String
  | [], _ => ""
  | text :: texts, [] => text ++ weave texts []
  | text :: texts, operand :: operands => text ++ operand ++ weave texts operands

/-- The text of a construct from the texts of its operands. A form with a number of operands that
it does not have has no text. -/
def Form.render (form : Form) (operands : List String) : String :=
  let no (negated : Bool) := if negated then "NOT " else ""
  match form, operands with
  | .literal value, _ => value.render
  | .wildcard qualifier, _ => renderPath qualifier ++ ".*"
  | .unary op, [e] => op.render e
  | .binary op, [l, r] => l ++ " " ++ op.render ++ " " ++ r
  | .quantified op quantifier, [l, r] =>
    l ++ " " ++ op.render ++ " " ++ quantifier.render ++ "(" ++ r ++ ")"
  | .test negated what, [e] => e ++ " IS " ++ no negated ++ what.render
  | .distinctFrom negated, [l, r] => l ++ " IS " ++ no negated ++ "DISTINCT FROM " ++ r
  | .inList negated, e :: items => e ++ " " ++ no negated ++ "IN (" ++ commas items ++ ")"
  | .inUnnest negated, [e, elements] => e ++ " " ++ no negated ++ "IN UNNEST(" ++ elements ++ ")"
  | .inQuery negated, [e, q] => e ++ " " ++ no negated ++ "IN (" ++ q ++ ")"
  | .between negated, [e, low, high] =>
    e ++ " " ++ no negated ++ "BETWEEN " ++ low ++ " AND " ++ high
  | .like kind negated any escape, [e, pattern] =>
    let escape := match escape with
      | some c => " ESCAPE '" ++ c ++ "'"
      | none => ""
    e ++ " " ++ no negated ++ kind.render ++ " " ++ (if any then "ANY " else "") ++ pattern ++
      escape
  | .regexp negated rlike, [e, pattern] =>
    e ++ " " ++ no negated ++ (if rlike then "RLIKE " else "REGEXP ") ++ pattern
  | .cast .doubleColon type _, [e] => e ++ "::" ++ type.render
  | .cast kind type format, [e] =>
    let name := match kind with
      | .tryCast => "TRY_CAST("
      | .safeCast => "SAFE_CAST("
      | _ => "CAST("
    let format := match format with
      | some f => " FORMAT " ++ f.render
      | none => ""
    name ++ e ++ " AS " ++ type.render ++ format ++ ")"
  | .convert target, [e] => target.render e
  | .atTimeZone, [e, zone] => e ++ " AT TIME ZONE " ++ zone
  | .extract field, [e] => "EXTRACT(" ++ field.render ++ " FROM " ++ e ++ ")"
  | .round up target, [e] =>
    let target := match target with
      | .whole => ""
      | .field field => " TO " ++ field.render
      | .scale digits => ", " ++ digits.render
    (if up then "CEIL(" else "FLOOR(") ++ e ++ target ++ ")"
  | .position, [e, whole] => "POSITION(" ++ e ++ " IN " ++ whole ++ ")"
  | .substring comma hasStart hasLength, e :: rest =>
    let (start, rest) := takeOptional hasStart rest
    let (length, _) := takeOptional hasLength rest
    "SUBSTRING(" ++ e ++
      (if hasStart then (if comma then ", " else " FROM ") ++ start else "") ++
      (if hasLength then (if comma then ", " else " FOR ") ++ length else "") ++ ")"
  | .overlay hasLength, e :: what :: start :: rest =>
    let (length, _) := takeOptional hasLength rest
    "OVERLAY(" ++ e ++ " PLACING " ++ what ++ " FROM " ++ start ++
      (if hasLength then " FOR " ++ length else "") ++ ")"
  | .trim side hasWhat, operands =>
    let side := match side with
      | some side => side.render ++ " "
      | none => ""
    let (what, rest) := takeOptional hasWhat operands
    let (e, _) := takeOperand rest
    "TRIM(" ++ side ++ (if hasWhat then what ++ " FROM " else "") ++ e ++ ")"
  | .collate collation, [e] => e ++ " COLLATE " ++ renderPath collation
  | .nested, [e] => "(" ++ e ++ ")"
  | .tuple, items => "(" ++ commas items ++ ")"
  | .array named, items => (if named then "ARRAY[" else "[") ++ commas items ++ "]"
  | .typedText type value, _ => type.render ++ " " ++ value.render
  | .introduced introducer value, _ => introducer.render ++ " " ++ value.render
  | .interval fields, [e] => "INTERVAL " ++ e ++ fields.render
  | .case hasOperand branches hasElse, operands =>
    renderCase hasOperand branches hasElse operands
  | .access steps, root :: rest => root ++ renderSteps steps rest
  | .call c, operands => c.render operands
  | .arrayQuery name, [q] => renderPath name ++ "(" ++ q ++ ")"
  | .subquery, [q] => "(" ++ q ++ ")"
  | .exists negated, [q] => no negated ++ "EXISTS (" ++ q ++ ")"
  | .query texts, operands => weave texts operands
  | _, _ => ""

namespace Expr

mutual

/-- The text of an expression. -/
def render : Expr → String
  | .column name => name.render
  | .path parts => renderPath parts
  | .form head operands => head.render (renderAll operands)

def renderAll : List Expr → List String
  | [] => []
  | e :: es => render e :: renderAll es

end

end Expr

end GeoLayers.Sql
