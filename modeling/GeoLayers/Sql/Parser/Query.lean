import GeoLayers.Sql.Parser.Expr
import GeoLayers.Sql.Printer

/-!
The grammar of nested queries, and the levels of the whole grammar. A query is read as a sequence
of pieces, fixed text and operands in turn, because nothing looks at a query but its printer and
whatever visits its operands. `grammar n` reads at most `n` levels of nesting; below them it ends
with the fault `tooDeep`.
-/

namespace GeoLayers.Sql.Parser

/-- A piece of a query. -/
inductive Piece where
  | text (s : String)
  | operand (e : Expr)

/-- The texts before, between and after the operands of a sequence of pieces. -/
def Piece.texts : List Piece → List String
  | [] => [""]
  | .text s :: pieces =>
    match Piece.texts pieces with
    | [] => [s]
    | t :: ts => (s ++ t) :: ts
  | .operand _ :: pieces => "" :: Piece.texts pieces

/-- The operands of a sequence of pieces. -/
def Piece.operands (pieces : List Piece) : List Expr :=
  pieces.filterMap fun
    | .text _ => none
    | .operand e => some e

/-- The expression that a query is. -/
def Piece.toExpr (pieces : List Piece) : Expr :=
  .form (.query (Piece.texts pieces)) (Piece.operands pieces)

/-- Sequences with a text between neighbours. -/
def Piece.joined (sep : String) : List (List Piece) → List Piece
  | [] => []
  | [pieces] => pieces
  | pieces :: more => pieces ++ .text sep :: Piece.joined sep more

/-- The keywords that are no alias of a table without `AS`. -/
def endsTable : List Keyword :=
  [.WITH, .EXPLAIN, .ANALYZE, .SELECT, .WHERE, .GROUP, .SORT, .HAVING, .ORDER, .PIVOT, .UNPIVOT,
    .TOP, .LATERAL, .VIEW, .LIMIT, .OFFSET, .FETCH, .UNION, .EXCEPT, .INTERSECT, .MINUS, .ON,
    .JOIN, .INNER, .CROSS, .FULL, .LEFT, .RIGHT, .NATURAL, .USING, .CLUSTER, .DISTRIBUTE, .GLOBAL,
    .ANTI, .SEMI, .RETURNING, .ASOF, .MATCH_CONDITION, .OUTER, .SET, .QUALIFY, .WINDOW, .END,
    .FOR, .PARTITION, .PREWHERE, .SETTINGS, .FORMAT, .START, .CONNECT, .MATCH_RECOGNIZE, .SAMPLE,
    .TABLESAMPLE, .FROM]

/-- The keywords that are no alias of a result without `AS`. -/
def endsItem : List Keyword :=
  [.WITH, .EXPLAIN, .ANALYZE, .SELECT, .WHERE, .GROUP, .SORT, .HAVING, .ORDER, .TOP, .LATERAL,
    .VIEW, .LIMIT, .OFFSET, .FETCH, .UNION, .EXCEPT, .EXCLUDE, .INTERSECT, .MINUS, .CLUSTER,
    .DISTRIBUTE, .RETURNING, .FROM, .INTO, .END]

/-- An alias, if there is one. -/
def aliasName? (reserved : List Keyword) : Parser (Option Ident) := do
  let marked ← keyword? .AS
  match ← peek? with
  | some (.word w) =>
    let free := match w.keyword with
      | some k => k ∉ reserved
      | none => true
    if marked || free then some <$> ident else pure none
  | some (.text .plain _) => some <$> ident
  | _ => if marked then fail else pure none

/-- The columns after a table's alias. -/
def aliasColumns : Parser (List String) := do
  if ← symbol? .lParen then
    let columns ← commaSeparated do
      let name ← ident
      match ← attempt dataType with
      | some type => pure (name.render ++ " " ++ type.render)
      | none => pure name.render
    symbol .rParen
    pure columns
  else pure []

/-- An alias of a table with its columns, as it is written after the table. -/
def tableAlias : Parser (List Piece) := do
  match ← aliasName? endsTable with
  | none => pure []
  | some name =>
    let columns ← aliasColumns
    let columns := if columns.isEmpty then "" else " (" ++ commas columns ++ ")"
    pure [.text (" AS " ++ name.render ++ columns)]

section Queries

variable (g : Grammar)

/-- Expressions with commas between them. -/
def exprList : Parser (List Piece) := do
  let es ← commaSeparated (g.expr 0)
  pure (Piece.joined ", " (es.map fun e => [.operand e]))

/-- A result of a query. -/
def item : Parser (List Piece) := do
  match ← star? with
  | some .star => pure [.text "*"]
  | some (.wildcard qualifier) => pure [.text (renderPath qualifier ++ ".*")]
  | _ =>
    let e ← g.expr 0
    match e with
    | .column ⟨value, .bare⟩ => if Text.asciiLower value == "from" then fail
    | _ => pure ()
    match ← aliasName? endsItem with
    | some name => pure [.operand e, .text (" AS " ++ name.render)]
    | none => pure [.operand e]

/-- A query between round brackets, from behind the opening one on. -/
def derived : Parser (List Piece) := do
  let q ← g.query
  symbol .rParen
  let name ← tableAlias
  pure (.text "(" :: .operand q :: .text ")" :: name)

/-- The arguments of a table that is made by a function, with their brackets. -/
def tableArguments : Parser (List Piece) := do
  if ← symbol? .rParen then pure [.text "()"]
  else
    let args ← commaSeparated (argument g)
    symbol .rParen
    pure [.operand (.form (.call { name := [], arguments := some ⟨none, args.map Prod.fst, []⟩ })
      (args.flatMap Prod.snd))]

/-- A table by its name. -/
def namedTable (marked : String) : Parser (List Piece) := do
  let name ← path
  let args ← do
    if ← symbol? .lParen then tableArguments g else pure []
  let ordinality := if ← keywords? [.WITH, .ORDINALITY] then " WITH ORDINALITY" else ""
  let name' ← tableAlias
  pure (.text (marked ++ renderPath name) :: args ++ .text ordinality :: name')

/-- The condition of a join. -/
def joinCondition (natural : Bool) : Parser (List Piece) := do
  if natural then pure []
  else if ← keyword? .ON then
    let e ← g.expr 0
    pure [.text " ON ", .operand e]
  else if ← keyword? .USING then
    let names ← bracketed (commaSeparated path)
    pure [.text (" USING(" ++ commas (names.map renderPath) ++ ")")]
  else pure []

/-- The words of a join in front, if there is one, and whether it may have a condition. -/
def joinWords? (natural : Bool) : Parser (Option String) := do
  let side (name : String) : Parser (Option String) := do
    match ← oneOf? [.OUTER, .SEMI, .ANTI, .JOIN] with
    | some .OUTER => do
      keyword .JOIN
      pure (some (name ++ " OUTER JOIN "))
    | some .SEMI => do
      keyword .JOIN
      pure (some (name ++ " SEMI JOIN "))
    | some .ANTI => do
      keyword .JOIN
      pure (some (name ++ " ANTI JOIN "))
    | some _ => pure (some (name ++ " JOIN "))
    | none => fail
  match ← oneOf? [.INNER, .JOIN, .LEFT, .RIGHT, .FULL, .SEMI, .ANTI, .OUTER] with
  | some .INNER => do
    keyword .JOIN
    pure (some "INNER JOIN ")
  | some .JOIN => pure (some "JOIN ")
  | some .LEFT => side "LEFT"
  | some .RIGHT => side "RIGHT"
  | some .FULL => do
    let _ ← keyword? .OUTER
    keyword .JOIN
    pure (some "FULL JOIN ")
  | some .SEMI => do
    keyword .JOIN
    pure (some "SEMI JOIN ")
  | some .ANTI => do
    keyword .JOIN
    pure (some "ANTI JOIN ")
  | some _ => fail
  | none => if natural then fail else pure none

/-- The joins after a table. -/
def joins (factor : Parser (List Piece)) : Nat → Parser (List Piece)
  | 0 => fail
  | fuel + 1 => do
    let gap := if ← keyword? .GLOBAL then " GLOBAL " else " "
    if ← keywords? [.CROSS, .JOIN] then
      let table ← factor
      let more ← joins factor fuel
      pure (.text (gap ++ "CROSS JOIN ") :: table ++ more)
    else
      let natural ← keyword? .NATURAL
      match ← joinWords? natural with
      | none => pure []
      | some words =>
        let table ← factor
        let condition ← joinCondition g natural
        let more ← joins factor fuel
        let words := gap ++ (if natural then "NATURAL " else "") ++ words
        pure (.text words :: table ++ condition ++ more)

/-- A table, with `fuel` levels of brackets around joins. -/
def tableFactor : Nat → Parser (List Piece)
  | 0 => fail
  | fuel + 1 => do
    if ← keyword? .LATERAL then
      if ← symbol? .lParen then
        let pieces ← derived g
        pure (.text "LATERAL " :: pieces)
      else namedTable g "LATERAL "
    else if ← keyword? .TABLE then
      let e ← bracketed (g.expr 0)
      let name ← tableAlias
      pure (.text "TABLE(" :: .operand e :: .text ")" :: name)
    else if ← symbol? .lParen then
      match ← attempt (derived g) with
      | some pieces => pure pieces
      | none =>
        let isNested ← peekSymbol .lParen
        let table ← tableFactor fuel
        let more ← fun ts => joins g (tableFactor fuel) (ts.length + 1) ts
        if more.isEmpty && !isNested then fail
        symbol .rParen
        let name ← tableAlias
        pure (.text "(" :: table ++ more ++ .text ")" :: name)
    else if ← keyword? .UNNEST then
      let elements ← bracketed (exprList g)
      let ordinality := if ← keywords? [.WITH, .ORDINALITY] then " WITH ORDINALITY" else ""
      let name ← tableAlias
      pure (.text "UNNEST(" :: elements ++ .text (")" ++ ordinality) :: name)
    else namedTable g ""

/-- A table with the tables joined to it. -/
def joinedTable : Parser (List Piece) := fun ts =>
  (do
    let table ← tableFactor g (ts.length + 1)
    let more ← joins g (tableFactor g (ts.length + 1)) (ts.length + 1)
    pure (table ++ more) : Parser (List Piece)) ts

/-- `DISTINCT` with what it applies to. -/
def distinct : Parser (List Piece) := do
  let all ← keyword? .ALL
  if ← keyword? .DISTINCT then
    if all then fail
    if ← keyword? .ON then
      symbol .lParen
      let es ← do
        if ← peekSymbol .rParen then pure [] else exprList g
      symbol .rParen
      pure (.text " DISTINCT ON (" :: es ++ [.text ")"])
    else pure [.text " DISTINCT"]
  else pure []

/-- A clause that is a list of expressions after some keywords. -/
def listClause (words : List Keyword) (text : String) : Parser (List Piece) := do
  if ← keywords? words then
    let es ← exprList g
    pure (.text text :: es)
  else pure []

/-- The clauses that may follow a condition: the clustering and sorting of the rows, and a
condition on the windows. -/
def rowClauses : Parser (List Piece) := do
  let cluster ← listClause g [.CLUSTER, .BY] " CLUSTER BY "
  let distribute ← listClause g [.DISTRIBUTE, .BY] " DISTRIBUTE BY "
  let sort ← listClause g [.SORT, .BY] " SORT BY "
  let qualify ← do
    if ← keyword? .QUALIFY then
      let e ← g.expr 0
      pure [.text " QUALIFY ", .operand e]
    else pure []
  pure (cluster ++ distribute ++ sort ++ qualify)

/-- A selection. -/
def select : Parser (List Piece) := do
  keyword .SELECT
  let distinct ← distinct g
  let items ← do
    match ← peekKeyword? with
    | some .FROM => pure []
    | _ =>
      let items ← commaSeparated (item g)
      pure (.text " " :: Piece.joined ", " items)
  let tables ← do
    if ← keyword? .FROM then
      let tables ← commaSeparated (joinedTable g)
      pure (.text " FROM " :: Piece.joined ", " tables)
    else pure []
  let condition ← do
    if ← keyword? .WHERE then
      let e ← g.expr 0
      pure [.text " WHERE ", .operand e]
    else pure []
  let rows ← rowClauses g
  pure (.text "SELECT" :: distinct ++ items ++ tables ++ condition ++ rows)

/-- The rows of `VALUES`, after its keyword. -/
def values : Parser (List Piece) := do
  let rows ← commaSeparated do
    let marked ← keyword? .ROW
    let es ← bracketed (exprList g)
    pure (marked, es)
  let before := if rows.any Prod.fst then "ROW(" else "("
  let rows := rows.map fun (_, es) => .text before :: es ++ [.text ")"]
  pure (.text "VALUES " :: Piece.joined ", " rows)

/-- The name after `TABLE`, which always takes three tokens. -/
def tableName : Parser (List Piece) := fun ts =>
  match ts with
  | .word schema :: .symbol .period :: .word table :: rest =>
    .ok ([.text ("TABLE " ++ schema.value ++ "." ++ table.value)], rest)
  | .word _ :: .symbol .period :: _ => .error .unexpected
  | .word table :: rest => .ok ([.text ("TABLE " ++ table.value)], rest.drop 2)
  | _ => .error .unexpected

/-- A query without set operations. -/
def simpleBody : Parser (List Piece) := do
  match ← peekKeyword? with
  | some .SELECT => select g
  | _ =>
    if ← symbol? .lParen then
      let q ← g.query
      symbol .rParen
      pure [.text "(", .operand q, .text ")"]
    else if ← keyword? .VALUES then values g
    else if ← keyword? .TABLE then tableName
    else fail

/-- How a difference counts equal rows. -/
def differenceMark : Parser String := do
  if ← keywords? [.DISTINCT, .BY, .NAME] then pure " DISTINCT BY NAME"
  else if ← keywords? [.BY, .NAME] then pure " BY NAME"
  else if ← keyword? .ALL then
    if ← keywords? [.BY, .NAME] then pure " ALL BY NAME" else pure " ALL"
  else if ← keyword? .DISTINCT then pure " DISTINCT"
  else pure ""

/-- The queries that are taken from the one in front. -/
def differences : Nat → Parser (List Piece)
  | 0 => fail
  | fuel + 1 => do
    if ← keyword? .MINUS then
      let mark ← differenceMark
      let right ← simpleBody g
      let more ← differences fuel
      pure (.text (" MINUS" ++ mark ++ " ") :: right ++ more)
    else pure []

/-- A body of a query: simple ones with set operations between them. -/
def body : Parser (List Piece) := do
  let first ← simpleBody g
  let more ← fun ts => differences g (ts.length + 1) ts
  pure (first ++ more)

/-- A named query in front of another. -/
def namedQuery : Parser (List Piece) := do
  let name ← ident
  let columns ← do
    if ← peekSymbol .lParen then
      let columns ← aliasColumns
      pure (" (" ++ commas columns ++ ")")
    else pure ""
  keyword .AS
  let kept ← do
    if ← keyword? .MATERIALIZED then pure "MATERIALIZED "
    else if ← keywords? [.NOT, .MATERIALIZED] then pure "NOT MATERIALIZED "
    else pure ""
  let q ← bracketed g.query
  let source ← do
    if ← keyword? .FROM then
      let source ← ident
      pure (" FROM " ++ source.render)
    else pure ""
  pure [.text (name.render ++ columns ++ " AS " ++ kept ++ "("), .operand q, .text (")" ++ source)]

/-- A lock on the rows, after `FOR`. -/
def lock : Parser String := do
  let strength ← do
    if ← keyword? .UPDATE then pure " FOR UPDATE"
    else
      keyword .SHARE
      pure " FOR SHARE"
  let table ← do
    if ← keyword? .OF then
      let table ← path
      pure (" OF " ++ renderPath table)
    else pure ""
  let wait ← do
    if ← keyword? .NOWAIT then pure " NOWAIT"
    else if ← keywords? [.SKIP, .LOCKED] then pure " SKIP LOCKED"
    else pure ""
  pure (strength ++ table ++ wait)

/-- The name of the elements that rows become, if it is given. -/
def elementName : Parser String := do
  if ← peekSymbol .lParen then
    let name ← bracketed textBody
    pure ("('" ++ name ++ "')")
  else pure ""

/-- An option of a format, if one of those it has is in front. -/
def formatOption? (offered : List Keyword) : Parser (Option (Keyword × String)) := do
  match ← oneOf? offered with
  | some .BINARY => do
    keyword .BASE64
    pure (some (.BINARY, ", BINARY BASE64"))
  | some .ROOT => do
    let name ← bracketed textBody
    pure (some (.ROOT, ", ROOT('" ++ name ++ "')"))
  | some .TYPE => pure (some (.TYPE, ", TYPE"))
  | some .ELEMENTS => pure (some (.ELEMENTS, ", ELEMENTS"))
  | some .INCLUDE_NULL_VALUES => pure (some (.INCLUDE_NULL_VALUES, ", INCLUDE_NULL_VALUES"))
  | some .WITHOUT_ARRAY_WRAPPER => pure (some (.WITHOUT_ARRAY_WRAPPER, ", WITHOUT_ARRAY_WRAPPER"))
  | _ => pure none

/-- The options after a format, each after a comma, the last one of them first. A comma may stand
without an option. -/
def formatOptionsFrom (offered : List Keyword) (found : List (Keyword × String)) :
    Nat → Parser (List (Keyword × String))
  | 0 => fail
  | fuel + 1 => do
    if ← symbol? .comma then
      match ← formatOption? offered with
      | some entry => formatOptionsFrom offered (entry :: found) fuel
      | none => formatOptionsFrom offered found fuel
    else pure found

/-- The text of the options after a format: the last one for each keyword, in a fixed order. -/
def formatOptions (offered : List Keyword) : Parser String := do
  let found ← fun ts => formatOptionsFrom offered [] (ts.length + 1) ts
  pure (String.join (offered.filterMap fun k => found.lookup k))

/-- The shape of rows that are given out as XML. -/
def xmlShape : Parser String := do
  match ← oneOf? [.RAW, .AUTO, .EXPLICIT, .PATH] with
  | some .RAW => do
    let name ← elementName
    pure ("RAW" ++ name)
  | some .AUTO => pure "AUTO"
  | some .EXPLICIT => pure "EXPLICIT"
  | some .PATH => do
    let name ← elementName
    pure ("PATH" ++ name)
  | _ => fail

/-- The shape of rows that are given out as JSON. -/
def jsonShape : Parser String := do
  match ← oneOf? [.AUTO, .PATH] with
  | some .AUTO => pure "AUTO"
  | some .PATH => pure "PATH"
  | _ => fail

/-- The format that a query's rows are given out in, after `FOR`, if one is in front. -/
def rowFormat? : Parser (Option String) := do
  match ← oneOf? [.XML, .JSON, .BROWSE] with
  | some .XML => do
    let shape ← xmlShape
    let options ← formatOptions [.BINARY, .TYPE, .ROOT, .ELEMENTS]
    pure (some (" FOR XML " ++ shape ++ options))
  | some .JSON => do
    let shape ← jsonShape
    let options ← formatOptions [.ROOT, .INCLUDE_NULL_VALUES, .WITHOUT_ARRAY_WRAPPER]
    pure (some (" FOR JSON " ++ shape ++ options))
  | some .BROWSE => pure (some " FOR BROWSE")
  | _ => pure none

/-- The locks at the end of a query, and the format of its rows after them. -/
def locks : Nat → Parser String
  | 0 => fail
  | fuel + 1 => do
    if ← keyword? .FOR then
      match ← rowFormat? with
      | some format => pure format
      | none =>
        let first ← lock
        let more ← locks fuel
        pure (first ++ more)
    else pure ""

/-- The end of a query. -/
def lockClauses : Parser String := fun ts => locks (ts.length + 1) ts

/-- A query. -/
def queryExpr : Parser Expr := do
  let named ← do
    if ← keyword? .WITH then
      let words := if ← keyword? .RECURSIVE then "WITH RECURSIVE " else "WITH "
      let queries ← commaSeparated (namedQuery g)
      pure (.text words :: Piece.joined ", " queries ++ [.text " "])
    else pure []
  let pieces ← body g
  let tail ← lockClauses
  pure (Piece.toExpr (named ++ pieces ++ [.text tail]))

end Queries

/-- The grammar with a given number of levels of nesting. -/
def grammar : Nat → Grammar
  | 0 => { expr := fun _ _ => .error .tooDeep, query := fun _ => .error .tooDeep }
  | level + 1 => { expr := exprAbove (grammar level), query := queryExpr (grammar level) }

/-- What follows the condition of a selection that ends with it. -/
inductive Ending where
  /-- Nothing of any effect. -/
  | plain
  /-- A set operation: the condition belongs to one of its sides only. -/
  | setOperation
  deriving DecidableEq, Repr

/-- The most levels of nesting in a condition. -/
def conditionLevels : Nat := 48

/-- A condition to the end of the tokens, with what follows it. Clauses that come after the
condition are read and dropped; a word `END` ends the tokens. -/
def condition : Parser (Expr × Ending) := do
  let g := grammar conditionLevels
  let e ← g.expr 0
  let _ ← rowClauses g
  let more ← fun ts => differences g (ts.length + 1) ts
  let _ ← lockClauses
  match ← peek? with
  | none => pure ()
  | some t => if t.keyword? = some .END then pure () else fail
  pure (e, if more.isEmpty then .plain else .setOperation)

end GeoLayers.Sql.Parser
