import GeoLayers.Sql.Keyword

/-!
The tokens of the SQL dialect: words, numbers, quoted texts, symbols and operators.
-/

namespace GeoLayers.Sql

/-- The operator and punctuation symbols of fixed spelling. `neq` is written `<>` or `!=`. -/
inductive Symbol where
  | comma | eq | doubleEq | neq | lt | gt | ltEq | gtEq | spaceship | plus | minus | mul | div
  | percent | concat | lParen | rParen | period | colon | doubleColon | assignment | semicolon
  | backslash | lBracket | rBracket | ampersand | pipe | caret | lBrace | rBrace | rArrow | sharp
  | doubleSharp | tilde | tildeStar | bangTilde | bangTildeStar | doubleTilde | doubleTildeStar
  | bangDoubleTilde | bangDoubleTildeStar | shiftLeft | shiftRight | overlap | bang | doubleBang
  | atSign | caretAt | squareRoot | cubeRoot | arrow | longArrow | hashArrow | hashLongArrow
  | atDashAt | questionDash | ampLt | ampGt | ampLtPipe | pipeAmpGt | twoWayArrow | ltCaret
  | gtCaret | questionSharp | questionDashPipe | questionDoublePipe | tildeEq | shiftLeftPipe
  | pipeShiftRight | atArrow | arrowAt | hashMinus | atQuestion | atAt | question | questionAnd
  | questionPipe
  deriving DecidableEq, Repr, Inhabited

/-- How a symbol is written out. -/
def Symbol.text : Symbol → String
  | .comma => "," | .eq => "=" | .doubleEq => "==" | .neq => "<>" | .lt => "<" | .gt => ">"
  | .ltEq => "<=" | .gtEq => ">=" | .spaceship => "<=>" | .plus => "+" | .minus => "-"
  | .mul => "*" | .div => "/" | .percent => "%" | .concat => "||" | .lParen => "("
  | .rParen => ")" | .period => "." | .colon => ":" | .doubleColon => "::"
  | .assignment => ":=" | .semicolon => ";" | .backslash => "\\" | .lBracket => "["
  | .rBracket => "]" | .ampersand => "&" | .pipe => "|" | .caret => "^" | .lBrace => "\x7b"
  | .rBrace => "\x7d" | .rArrow => "=>" | .sharp => "#" | .doubleSharp => "##" | .tilde => "~"
  | .tildeStar => "~*" | .bangTilde => "!~" | .bangTildeStar => "!~*" | .doubleTilde => "~~"
  | .doubleTildeStar => "~~*" | .bangDoubleTilde => "!~~" | .bangDoubleTildeStar => "!~~*"
  | .shiftLeft => "<<" | .shiftRight => ">>" | .overlap => "&&" | .bang => "!"
  | .doubleBang => "!!" | .atSign => "@" | .caretAt => "^@" | .squareRoot => "|/"
  | .cubeRoot => "||/" | .arrow => "->" | .longArrow => "->>" | .hashArrow => "#>"
  | .hashLongArrow => "#>>" | .atDashAt => "@-@" | .questionDash => "?-" | .ampLt => "&<"
  | .ampGt => "&>" | .ampLtPipe => "&<|" | .pipeAmpGt => "|&>" | .twoWayArrow => "<->"
  | .ltCaret => "<^" | .gtCaret => ">^" | .questionSharp => "?#" | .questionDashPipe => "?-|"
  | .questionDoublePipe => "?||" | .tildeEq => "~=" | .shiftLeftPipe => "<<|"
  | .pipeShiftRight => "|>>" | .atArrow => "@>" | .arrowAt => "<@" | .hashMinus => "#-"
  | .atQuestion => "@?" | .atAt => "@@" | .question => "?" | .questionAnd => "?&"
  | .questionPipe => "?|"

/-- The kinds of quoted text, told apart by what stands before the opening quote. -/
inductive Quoted where
  /-- A plain text, `'…'`. -/
  | plain
  /-- A text in the national character set, `N'…'`. -/
  | national
  /-- A text with backslash escapes, `E'…'`. -/
  | escaped
  /-- A text with code points by number, `U&'…'`. -/
  | unicode
  /-- Hexadecimal digits, `X'…'` or a number that starts with `0x`. -/
  | hex
  /-- Bits, `B'…'`. -/
  | bits
  /-- Bits between double quotes, `B"…"`. -/
  | doubleBits
  deriving DecidableEq, Repr, Inhabited

/-- A word: a name, quoted or not, with the keyword it spells if it is not quoted. -/
structure Word where
  value : String
  quoted : Bool := false
  keyword : Option Keyword := none
  deriving DecidableEq, Repr, Inhabited

/-- A token of the dialect. Blanks and comments make no token. -/
inductive Token where
  | word (w : Word)
  | number (digits : String) (long : Bool)
  | text (kind : Quoted) (body : String)
  | dollarText (tag : Option String) (body : String)
  | symbol (s : Symbol)
  /-- A run of operator characters with no meaning of its own. -/
  | operator (run : String)
  | placeholder (name : String)
  | other (c : Char)
  deriving DecidableEq, Repr, Inhabited

/-- The keyword that a token spells. -/
def Token.keyword? : Token → Option Keyword
  | .word w => w.keyword
  | _ => none

/-- How a token is written inside `OPERATOR(…)`, where its text is kept as it is. -/
def Token.spelling : Token → String
  | .word w => if w.quoted then "\"" ++ w.value ++ "\"" else w.value
  | .number digits long => if long then digits ++ "L" else digits
  | .text .plain body => "'" ++ body ++ "'"
  | .text .national body => "N'" ++ body ++ "'"
  | .text .escaped body => "E'" ++ body ++ "'"
  | .text .unicode body => "U&'" ++ body ++ "'"
  | .text .hex body => "X'" ++ body ++ "'"
  | .text .bits body => "B'" ++ body ++ "'"
  | .text .doubleBits body => "B\"" ++ body ++ "\""
  | .dollarText none body => "$$" ++ body ++ "$$"
  | .dollarText (some tag) body => "$" ++ tag ++ "$" ++ body ++ "$" ++ tag ++ "$"
  | .symbol s => s.text
  | .operator run => run
  | .placeholder name => name
  | .other c => c.toString

end GeoLayers.Sql
