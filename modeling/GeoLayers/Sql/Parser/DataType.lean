import GeoLayers.Sql.Parser.Basic

/-!
The grammar of type names. Known types have a fixed spelling of their own; any other name is a
custom type, with anything simple between its brackets.
-/

namespace GeoLayers.Sql.Parser

/-- A type without arguments. -/
def bare (name : String) : Parser DataType := pure (.known name [] "")

/-- A number between brackets, if there is one. -/
def precision? : Parser (Option Nat) := do
  if ← symbol? .lParen then
    let n ← count
    symbol .rParen
    pure (some n)
  else pure none

/-- One or two numbers between brackets, if there are any. -/
def precisionScale? : Parser (Option (Nat × Option Nat)) := do
  if ← symbol? .lParen then
    let n ← count
    let scale ← whenever (symbol? .comma) count
    symbol .rParen
    pure (some (n, scale))
  else pure none

/-- A type with an optional precision. -/
def withPrecision (name : String) : Parser DataType := do
  let n ← precision?
  pure (.known name (n.toList.map toString) "")

/-- A whole-number type, which may be unsigned. -/
def wholeNumber (name : String) : Parser DataType := do
  let n ← precision?
  let unsigned ← keyword? .UNSIGNED
  pure (.known name (n.toList.map toString) (if unsigned then " UNSIGNED" else ""))

/-- An exact number type with optional precision and scale. -/
def exactNumber (name : String) : Parser DataType := do
  match ← precisionScale? with
  | none => bare name
  | some (n, none) => pure (.known name [toString n] "")
  | some (n, some scale) => pure (.known name [toString n, toString scale] "")

/-- A character type with an optional length. -/
def characters (name : String) : Parser DataType := do
  if ← symbol? .lParen then
    let length ← do
      if ← keyword? .MAX then pure "MAX"
      else
        let n ← count
        if ← keyword? .CHARACTERS then pure (toString n ++ " CHARACTERS")
        else if ← keyword? .OCTETS then pure (toString n ++ " OCTETS")
        else pure (toString n)
    symbol .rParen
    pure (.known name [length] "")
  else bare name

/-- A binary type with an optional length. -/
def binaryLength (name : String) : Parser DataType := do
  if ← symbol? .lParen then
    let length ← do
      if ← keyword? .MAX then pure "MAX" else toString <$> count
    symbol .rParen
    pure (.known name [length] "")
  else bare name

/-- `CHARACTER` or `CHAR` with what may follow it. -/
def character (name : String) : Parser DataType := do
  if ← keyword? .VARYING then characters (name ++ " VARYING")
  else if ← keywords? [.LARGE, .OBJECT] then withPrecision (name ++ " LARGE OBJECT")
  else characters name

/-- `TIME` or `TIMESTAMP`, with or without a time zone. -/
def clock (name : String) : Parser DataType := do
  let n ← precision?
  let tail ← do
    if ← keyword? .WITH then
      keywords [.TIME, .ZONE]
      pure " WITH TIME ZONE"
    else if ← keyword? .WITHOUT then
      keywords [.TIME, .ZONE]
      pure " WITHOUT TIME ZONE"
    else pure ""
  pure (.known name (n.toList.map toString) tail)

/-- String constants between brackets, as the values of an enumeration. -/
def members (name : String) : Parser DataType := do
  let values ← bracketed (commaSeparated textBody)
  pure (.known name [", ".intercalate (values.map fun v => "'" ++ v ++ "'")] "")

/-- What may stand between the brackets of a custom type. Commas are skipped. -/
def modifiers : Nat → Parser (List String)
  | 0 => fail
  | fuel + 1 => do
    match ← next with
    | .word w => (Token.spelling (.word w) :: ·) <$> modifiers fuel
    | .number digits _ => (digits :: ·) <$> modifiers fuel
    | .text .plain body => (body :: ·) <$> modifiers fuel
    | .symbol .comma => modifiers fuel
    | .symbol .rParen => pure []
    | _ => fail

/-- A type of any other name. -/
def customType : Parser DataType := do
  let name ← path
  if ← symbol? .lParen then
    let found ← fun ts => modifiers (ts.length + 1) ts
    pure (.custom name found)
  else pure (.custom name [])

/-- The type that a keyword names, unless it names none. -/
def knownType? : Keyword → Option (Parser DataType)
  | .BOOLEAN => bare "BOOLEAN" | .BOOL => bare "BOOL"
  | .FLOAT => withPrecision "FLOAT" | .REAL => bare "REAL" | .FLOAT4 => bare "FLOAT4"
  | .FLOAT32 => bare "Float32" | .FLOAT64 => bare "FLOAT64" | .FLOAT8 => bare "FLOAT8"
  | .DOUBLE => some do
    if ← keyword? .PRECISION then bare "DOUBLE PRECISION" else exactNumber "DOUBLE"
  | .TINYINT => wholeNumber "TINYINT" | .INT2 => wholeNumber "INT2"
  | .SMALLINT => wholeNumber "SMALLINT" | .MEDIUMINT => wholeNumber "MEDIUMINT"
  | .INT => wholeNumber "INT" | .INT4 => wholeNumber "INT4" | .INT8 => wholeNumber "INT8"
  | .INTEGER => wholeNumber "INTEGER" | .BIGINT => wholeNumber "BIGINT"
  | .INT16 => bare "Int16" | .INT32 => bare "Int32" | .INT64 => bare "INT64"
  | .INT128 => bare "Int128" | .INT256 => bare "Int256" | .UINT8 => bare "UInt8"
  | .UINT16 => bare "UInt16" | .UINT32 => bare "UInt32" | .UINT64 => bare "UInt64"
  | .UINT128 => bare "UInt128" | .UINT256 => bare "UInt256"
  | .VARCHAR => characters "VARCHAR" | .NVARCHAR => characters "NVARCHAR"
  | .CHARACTER => character "CHARACTER" | .CHAR => character "CHAR"
  | .CLOB => withPrecision "CLOB" | .BINARY => withPrecision "BINARY"
  | .VARBINARY => binaryLength "VARBINARY" | .BLOB => withPrecision "BLOB"
  | .TINYBLOB => bare "TINYBLOB" | .MEDIUMBLOB => bare "MEDIUMBLOB"
  | .LONGBLOB => bare "LONGBLOB" | .BYTES => withPrecision "BYTES"
  | .BIT => some do
    if ← keyword? .VARYING then withPrecision "BIT VARYING" else withPrecision "BIT"
  | .VARBIT => withPrecision "VARBIT" | .UUID => bare "UUID" | .DATE => bare "DATE"
  | .DATE32 => bare "Date32" | .DATETIME => withPrecision "DATETIME"
  | .TIMESTAMP => clock "TIMESTAMP" | .TIMESTAMPTZ => withPrecision "TIMESTAMPTZ"
  | .TIME => clock "TIME" | .TIMETZ => withPrecision "TIMETZ"
  | .INTERVAL => bare "INTERVAL" | .JSON => bare "JSON" | .JSONB => bare "JSONB"
  | .REGCLASS => bare "REGCLASS" | .STRING => withPrecision "STRING"
  | .FIXEDSTRING => some do
    let n ← bracketed count
    pure (.known "FixedString" [toString n] "")
  | .TEXT => bare "TEXT" | .TINYTEXT => bare "TINYTEXT" | .MEDIUMTEXT => bare "MEDIUMTEXT"
  | .LONGTEXT => bare "LONGTEXT" | .BYTEA => bare "BYTEA"
  | .NUMERIC => exactNumber "NUMERIC" | .DECIMAL => exactNumber "DECIMAL"
  | .DEC => exactNumber "DEC" | .BIGNUMERIC => exactNumber "BIGNUMERIC"
  | .BIGDECIMAL => exactNumber "BIGDECIMAL"
  | .ENUM => members "ENUM" | .ENUM8 => members "ENUM8" | .ENUM16 => members "ENUM16"
  | .SET => members "SET" | .TRIGGER => bare "TRIGGER"
  | .SIGNED => some do
    if ← keyword? .INTEGER then bare "SIGNED INTEGER" else bare "SIGNED"
  | .UNSIGNED => some do
    if ← keyword? .INTEGER then bare "UNSIGNED INTEGER" else bare "UNSIGNED"
  | .POINT => bare "point" | .LINE => bare "line" | .LSEG => bare "lseg" | .BOX => bare "box"
  | .PATH => bare "path" | .POLYGON => bare "polygon" | .CIRCLE => bare "circle"
  | .TABLE => some fail
  | _ => none

/-- The square brackets after a type make it an array. -/
def arrayTail : Nat → DataType → Parser DataType
  | 0, _ => fail
  | fuel + 1, type => do
    if ← symbol? .lBracket then
      let size ← attempt count
      symbol .rBracket
      arrayTail fuel (.array type size)
    else pure type

/-- A type, and whether a closing angle bracket too many has been read with it. -/
def typeBefore : Nat → Parser (DataType × Bool)
  | 0 => fail
  | fuel + 1 => do
    let (type, extra) ← do
      match ← peekKeyword? with
      | some .ARRAY =>
        let _ ← next
        symbol .lt
        let (element, extra) ← typeBefore fuel
        if extra then pure (.angleArray element, false)
        else if ← symbol? .gt then pure (.angleArray element, false)
        else if ← symbol? .shiftRight then pure (.angleArray element, true)
        else fail
      | some .ANY =>
        if ← keywords? [.ANY, .TYPE] then pure (.known "ANY TYPE" [] "", false)
        else (·, false) <$> customType
      | some k =>
        match knownType? k with
        | some p =>
          let _ ← next
          (·, false) <$> p
        | none => (·, false) <$> customType
      | none =>
        match ← peek? with
        | some (.word _) => (·, false) <$> customType
        | _ => fail
    let type ← fun ts => arrayTail (ts.length + 1) type ts
    pure (type, extra)

/-- A type. -/
def dataType : Parser DataType := do
  let (type, extra) ← fun ts => typeBefore (ts.length + 1) ts
  if extra then fail else pure type

/-- The names of the parts of a date. -/
def dateFieldNames : List (Keyword × String) := [
  (.YEAR, "YEAR"), (.YEARS, "YEARS"), (.MONTH, "MONTH"), (.MONTHS, "MONTHS"), (.WEEK, "WEEK"),
  (.WEEKS, "WEEKS"), (.DAY, "DAY"), (.DAYOFWEEK, "DAYOFWEEK"), (.DAYOFYEAR, "DAYOFYEAR"),
  (.DAYS, "DAYS"), (.DATE, "DATE"), (.DATETIME, "DATETIME"), (.HOUR, "HOUR"), (.HOURS, "HOURS"),
  (.MINUTE, "MINUTE"), (.MINUTES, "MINUTES"), (.SECOND, "SECOND"), (.SECONDS, "SECONDS"),
  (.CENTURY, "CENTURY"), (.DECADE, "DECADE"), (.DOY, "DOY"), (.DOW, "DOW"), (.EPOCH, "EPOCH"),
  (.ISODOW, "ISODOW"), (.ISOYEAR, "ISOYEAR"), (.ISOWEEK, "ISOWEEK"), (.JULIAN, "JULIAN"),
  (.MICROSECOND, "MICROSECOND"), (.MICROSECONDS, "MICROSECONDS"), (.MILLENIUM, "MILLENIUM"),
  (.MILLENNIUM, "MILLENNIUM"), (.MILLISECOND, "MILLISECOND"), (.MILLISECONDS, "MILLISECONDS"),
  (.NANOSECOND, "NANOSECOND"), (.NANOSECONDS, "NANOSECONDS"), (.QUARTER, "QUARTER"),
  (.TIME, "TIME"), (.TIMEZONE, "TIMEZONE"), (.TIMEZONE_ABBR, "TIMEZONE_ABBR"),
  (.TIMEZONE_HOUR, "TIMEZONE_HOUR"), (.TIMEZONE_MINUTE, "TIMEZONE_MINUTE"),
  (.TIMEZONE_REGION, "TIMEZONE_REGION")]

/-- The parts of a date that may follow the value of an interval. -/
def intervalUnits : List Keyword := [
  .YEAR, .YEARS, .MONTH, .MONTHS, .WEEK, .WEEKS, .DAY, .DAYS, .HOUR, .HOURS, .MINUTE, .MINUTES,
  .SECOND, .SECONDS, .CENTURY, .DECADE, .DOW, .DOY, .EPOCH, .ISODOW, .ISOYEAR, .JULIAN,
  .MICROSECOND, .MICROSECONDS, .MILLENIUM, .MILLENNIUM, .MILLISECOND, .MILLISECONDS,
  .NANOSECOND, .NANOSECONDS, .QUARTER, .TIMEZONE, .TIMEZONE_HOUR, .TIMEZONE_MINUTE]

/-- A part of a date. -/
def dateField : Parser DateField := do
  match ← next with
  | .word w =>
    match w.keyword.bind fun k => dateFieldNames.lookup k with
    | some name => pure (.known name)
    | none => pure (.custom w.ident)
  | .text .plain body => pure (.custom ⟨body, .single⟩)
  | _ => fail

end GeoLayers.Sql.Parser
