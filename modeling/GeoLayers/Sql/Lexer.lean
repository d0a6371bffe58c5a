import GeoLayers.Sql.Token
import GeoLayers.Text.Letter
import GeoLayers.Text.Blank

/-!
Reading the tokens of a text. `Scan.next` takes one lexeme off the front of a nonempty list of
characters; `tokenize` repeats it to the end. A run of operator characters that extends a known
operator is one custom operator, so `>-` is one token and `=-` is two.
-/

namespace GeoLayers.Sql

open GeoLayers.Text

/-- Why a text is not in the language: a token out of place, or more nesting than is allowed. -/
inductive Fault where
  | unexpected
  | tooDeep
  deriving DecidableEq, Repr, Inhabited

namespace Scan

/-- What one step of the scanner finds: a token or a stretch without meaning. -/
abbrev Lexeme := Option Token

/-- The outcome of one step, with the characters that follow. -/
abbrev Step := Except Fault (Lexeme × List Char)

def give (s : Symbol) (rest : List Char) : Step := .ok (some (.symbol s), rest)

def text (kind : Quoted) (found : Option (List Char × List Char)) : Step :=
  match found with
  | some (body, rest) => .ok (some (.text kind (String.ofList body)), rest)
  | none => .error .unexpected

/-- The characters of operators that extend a known operator to a custom one. -/
def isOperatorPart (c : Char) : Bool :=
  "+-*/<>=~!@#%^&|`?".toList.contains c

def isWordStart (c : Char) : Bool := isLetter c || c == '_'

def isWordPart (c : Char) : Bool := isLetter c || c.isDigit || c == '$' || c == '_'

/-- A known operator, unless more operator characters follow; the extended operator is custom. -/
def extend (start : String) (known : Option Symbol) (rest : List Char) : Step :=
  match rest.takeWhile isOperatorPart, known with
  | [], some s => give s rest
  | [], none => .error .unexpected
  | run, _ =>
    .ok (some (.operator (start ++ String.ofList run)), rest.dropWhile isOperatorPart)

/-- The body of a text up to its closing quote; a quote inside is written twice. -/
def quotedBody (quote : Char) : List Char → Option (List Char × List Char)
  | [] => none
  | c :: rest =>
    if c == quote then
      match rest with
      | c' :: rest' =>
        if c' == quote then
          (quotedBody quote rest').map fun (body, rest) => (quote :: body, rest)
        else some ([], rest)
      | [] => some ([], rest)
    else (quotedBody quote rest).map fun (body, rest) => (c :: body, rest)

/-- The character for which a letter stands after a backslash in hexadecimal digits between
quotes. -/
def controlCharacter : Char → Char
  | '0' => Char.ofNat 0 | 'a' => Char.ofNat 7 | 'b' => Char.ofNat 8 | 'f' => Char.ofNat 12
  | 'n' => '\n' | 'r' => '\r' | 't' => '\t' | 'Z' => Char.ofNat 26
  | c => c

/-- As `quotedBody` for single quotes, where a backslash also escapes the next character. -/
def backslashedBody : List Char → Option (List Char × List Char)
  | [] => none
  | '\'' :: '\'' :: rest =>
    (backslashedBody rest).map fun (body, rest) => ('\'' :: body, rest)
  | '\'' :: rest => some ([], rest)
  | '\\' :: c :: rest =>
    (backslashedBody rest).map fun (body, rest) => (controlCharacter c :: body, rest)
  | c :: rest => (backslashedBody rest).map fun (body, rest) => (c :: body, rest)

/-- The value of a digit in a base up to sixteen. -/
def digitValue? (base : Nat) (c : Char) : Option Nat :=
  let n := c.toNat
  let value :=
    if c.isDigit then some (n - 48)
    else if 97 ≤ n && n ≤ 102 then some (n - 87)
    else if 65 ≤ n && n ≤ 70 then some (n - 55)
    else none
  value.filter (· < base)

/-- The value of a nonempty list of digits. -/
def digitsValue? (base : Nat) : List Char → Option Nat
  | [] => none
  | cs => cs.foldl (fun acc c => do pure ((← acc) * base + (← digitValue? base c))) (some 0)

/-- The character of a code point. -/
def scalar? (n : Nat) : Option Char :=
  if n < 0xD800 || (0xDFFF < n && n < 0x110000) then some (Char.ofNat n) else none

/-- A code point written with exactly `count` hexadecimal digits, where a plus sign may stand
for the first. -/
def numbered? (count : Nat) (cs : List Char) : Option (Char × List Char) := do
  let digits := cs.take count
  if digits.length < count then none
  else
    let unsigned := match digits with
      | '+' :: more => more
      | all => all
    let n ← digitsValue? 16 unsigned
    let c ← scalar? n
    pure (c, cs.drop count)

/-- The ASCII character of the low eight bits of a number. -/
def lowByte? (n : Nat) : Option Char :=
  if n % 256 ≤ 127 then some (Char.ofNat (n % 256)) else none

/-- Up to `limit` leading digits of a base, and the rest. -/
def leadingDigits (base : Nat) : Nat → List Char → List Char × List Char
  | 0, cs => ([], cs)
  | _ + 1, [] => ([], [])
  | limit + 1, c :: cs =>
    if (digitValue? base c).isSome then
      let (digits, rest) := leadingDigits base limit cs
      (c :: digits, rest)
    else ([], c :: cs)

/-- The character of an escape whose backslash has been read. -/
def escape? : List Char → Option (Char × List Char)
  | [] => none
  | 'b' :: rest => some (Char.ofNat 8, rest)
  | 'f' :: rest => some (Char.ofNat 12, rest)
  | 'n' :: rest => some ('\n', rest)
  | 'r' :: rest => some ('\r', rest)
  | 't' :: rest => some ('\t', rest)
  | 'u' :: rest => numbered? 4 rest
  | 'U' :: rest => numbered? 8 rest
  | 'x' :: rest =>
    match leadingDigits 16 2 rest with
    | ([], rest) => some ('x', rest)
    | (digits, rest) => do pure ((← (digitsValue? 16 digits).bind lowByte?), rest)
  | c :: rest =>
    if (digitValue? 8 c).isSome then
      let (digits, rest) := leadingDigits 8 2 rest
      do pure ((← (digitsValue? 8 (c :: digits)).bind lowByte?), rest)
    else some (c, rest)

/-- The body of an `E'…'` text after the opening quote. No escape may stand for the character
zero. `fuel` bounds the steps; the length of the input is enough. -/
def escapedBody : Nat → List Char → Option (List Char × List Char)
  | 0, _ => none
  | _ + 1, [] => none
  | fuel + 1, '\'' :: '\'' :: rest =>
    (escapedBody fuel rest).map fun (body, rest) => ('\'' :: body, rest)
  | _ + 1, '\'' :: rest => some ([], rest)
  | fuel + 1, '\\' :: rest => do
    let (c, rest) ← escape? rest
    if c.toNat = 0 then none
    else (escapedBody fuel rest).map fun (body, rest) => (c :: body, rest)
  | fuel + 1, c :: rest => (escapedBody fuel rest).map fun (body, rest) => (c :: body, rest)

/-- The code point of exactly `count` hexadecimal digits. -/
def codePoint? (count : Nat) (cs : List Char) : Option (Char × List Char) := do
  let digits := cs.take count
  if digits.length < count then none
  else pure ((← (digitsValue? 16 digits).bind scalar?), cs.drop count)

/-- The body of a `U&'…'` text after the opening quote. -/
def unicodeBody : Nat → List Char → Option (List Char × List Char)
  | 0, _ => none
  | _ + 1, [] => none
  | fuel + 1, '\'' :: '\'' :: rest =>
    (unicodeBody fuel rest).map fun (body, rest) => ('\'' :: body, rest)
  | _ + 1, '\'' :: rest => some ([], rest)
  | fuel + 1, '\\' :: '\\' :: rest =>
    (unicodeBody fuel rest).map fun (body, rest) => ('\\' :: body, rest)
  | fuel + 1, '\\' :: '+' :: rest => do
    let (c, rest) ← codePoint? 6 rest
    (unicodeBody fuel rest).map fun (body, rest) => (c :: body, rest)
  | fuel + 1, '\\' :: rest => do
    let (c, rest) ← codePoint? 4 rest
    (unicodeBody fuel rest).map fun (body, rest) => (c :: body, rest)
  | fuel + 1, c :: rest => (unicodeBody fuel rest).map fun (body, rest) => (c :: body, rest)

/-- What follows a comment of slashes and stars whose opening has been read; such comments
nest. -/
def afterComment : Nat → List Char → Option (List Char)
  | _, [] => none
  | depth, '/' :: '*' :: rest => afterComment (depth + 1) rest
  | 0, '*' :: '/' :: rest => some rest
  | depth + 1, '*' :: '/' :: rest => afterComment depth rest
  | depth, _ :: rest => afterComment depth rest

/-- What follows a comment of two dashes: it ends with the line. -/
def afterLine (cs : List Char) : List Char :=
  (cs.dropWhile fun c => c != '\n' && c != '\r').drop 1

/-- A word whose first characters have been read. -/
def wordFrom (start rest : List Char) : Step :=
  let value := start ++ rest.takeWhile isWordPart
  let keyword := Keyword.ofCapitals? (String.ofList (capitalized value))
  .ok (some (.word ⟨String.ofList value, false, keyword⟩), rest.dropWhile isWordPart)

/-- The digits in front; an underscore may separate them where a hexadecimal digit follows. -/
def digitRun (isDigit : Char → Bool) : List Char → List Char × List Char
  | [] => ([], [])
  | c :: rest =>
    let separates := c == '_' && (rest.head?.any fun d => (digitValue? 16 d).isSome)
    if isDigit c || separates then
      let (digits, rest) := digitRun isDigit rest
      (c :: digits, rest)
    else ([], c :: rest)

/-- An exponent in front, if there is one. -/
def exponentRun : List Char → List Char × List Char
  | e :: rest =>
    if e == 'e' || e == 'E' then
      let (sign, digits) := match rest with
        | s :: more => if s == '+' || s == '-' then ([s], more) else ([], rest)
        | [] => ([], [])
      match digits.takeWhile Char.isDigit with
      | [] => ([], e :: rest)
      | run => (e :: sign ++ run, digits.dropWhile Char.isDigit)
    else ([], e :: rest)
  | [] => ([], [])

/-- A number, or the period when no digit stands beside it. -/
def number (cs : List Char) : Step :=
  let (whole, rest) := digitRun Char.isDigit cs
  match whole, rest with
  | ['0'], 'x' :: rest =>
    let (digits, rest) := digitRun (fun c => (digitValue? 16 c).isSome) rest
    .ok (some (.text .hex (String.ofList digits)), rest)
  | _, _ =>
    let (point, rest) := match rest with
      | '.' :: more => (['.'], more)
      | more => ([], more)
    let (fraction, rest) := digitRun Char.isDigit rest
    match whole ++ point ++ fraction with
    | ['.'] => give .period rest
    | mantissa =>
      let (exponent, rest) := exponentRun rest
      let digits := String.ofList (mantissa ++ exponent)
      match rest with
      | 'L' :: rest => .ok (some (.number digits true), rest)
      | rest => .ok (some (.number digits false), rest)

/-- The body of a text between two pairs of dollar signs. A single dollar sign inside belongs to
the body. `held` tells that one has been read and not yet placed. -/
def dollarBody : Bool → List Char → Option (List Char × List Char)
  | _, [] => none
  | true, c :: rest =>
    if c == '$' then some ([], rest)
    else (dollarBody false rest).map fun (body, rest) => ('$' :: c :: body, rest)
  | false, c :: rest =>
    if c == '$' then dollarBody true rest
    else (dollarBody false rest).map fun (body, rest) => (c :: body, rest)

/-- What stands before the first occurrence of a closing tag, and what follows it. -/
def untilTag (tag : List Char) : List Char → Option (List Char × List Char)
  | [] => none
  | c :: rest =>
    match afterStart tag (c :: rest) with
    | some rest => some ([], rest)
    | none => (untilTag tag rest).map fun (body, rest) => (c :: body, rest)

/-- What follows a dollar sign: a text between dollar signs or a placeholder. -/
def dollar : List Char → Step
  | '$' :: rest =>
    match dollarBody false rest with
    | some (body, rest) => .ok (some (.dollarText none (String.ofList body)), rest)
    | none => .error .unexpected
  | cs =>
    let isTag (c : Char) := isLetterOrNumber c || c == '_'
    let tag := cs.takeWhile isTag
    match cs.dropWhile isTag with
    | '$' :: rest =>
      match untilTag ('$' :: tag ++ ['$']) rest with
      | some (body, rest) =>
        let name := if tag.isEmpty then none else some (String.ofList tag)
        .ok (some (.dollarText name (String.ofList body)), rest)
      | none => .error .unexpected
    | rest => .ok (some (.placeholder ("$" ++ String.ofList tag)), rest)

/-- The operators that start with a given character, which has been read. -/
def symbolic : Char → List Char → Option Step
  | '(', cs => give .lParen cs
  | ')', cs => give .rParen cs
  | ',', cs => give .comma cs
  | '+', cs => give .plus cs
  | '*', cs => give .mul cs
  | ';', cs => give .semicolon cs
  | '\\', cs => give .backslash cs
  | '[', cs => give .lBracket cs
  | ']', cs => give .rBracket cs
  | '\x7b', cs => give .lBrace cs
  | '\x7d', cs => give .rBrace cs
  | '-', '-' :: cs => some (.ok (none, afterLine cs))
  | '-', '>' :: '>' :: cs => extend "->>" (some .longArrow) cs
  | '-', '>' :: cs => extend "->" (some .arrow) cs
  | '-', cs => extend "-" (some .minus) cs
  | '/', '*' :: cs =>
    match afterComment 0 cs with
    | some rest => some (.ok (none, rest))
    | none => some (.error .unexpected)
  | '/', cs => give .div cs
  | '%', c :: cs => if isBlank c then give .percent (c :: cs) else extend "%" (some .percent) (c :: cs)
  | '%', [] => give .percent []
  | '|', '/' :: cs => extend "|/" (some .squareRoot) cs
  | '|', '|' :: '/' :: cs => extend "||/" (some .cubeRoot) cs
  | '|', '|' :: cs => extend "||" (some .concat) cs
  | '|', '&' :: '>' :: cs => extend "|&>" (some .pipeAmpGt) cs
  | '|', '&' :: cs => extend "|&" none cs
  | '|', '>' :: '>' :: cs => extend "|>>" (some .pipeShiftRight) cs
  | '|', '>' :: cs => extend "|>" none cs
  | '|', cs => extend "|" (some .pipe) cs
  | '=', '>' :: cs => give .rArrow cs
  | '=', '=' :: cs => give .doubleEq cs
  | '=', cs => give .eq cs
  | '!', '=' :: cs => give .neq cs
  | '!', '!' :: cs => give .doubleBang cs
  | '!', '~' :: '*' :: cs => give .bangTildeStar cs
  | '!', '~' :: '~' :: '*' :: cs => give .bangDoubleTildeStar cs
  | '!', '~' :: '~' :: cs => give .bangDoubleTilde cs
  | '!', '~' :: cs => give .bangTilde cs
  | '!', cs => give .bang cs
  | '<', '=' :: '>' :: cs => extend "<=>" (some .spaceship) cs
  | '<', '=' :: cs => extend "<=" (some .ltEq) cs
  | '<', '|' :: cs => extend "<<|" (some .shiftLeftPipe) cs
  | '<', '>' :: cs => extend "<>" (some .neq) cs
  | '<', '<' :: '|' :: cs => extend "<<|" (some .shiftLeftPipe) cs
  | '<', '<' :: cs => extend "<<" (some .shiftLeft) cs
  | '<', '-' :: '>' :: cs => extend "<->" (some .twoWayArrow) cs
  | '<', '-' :: cs => extend "<-" none cs
  | '<', '^' :: cs => extend "<^" (some .ltCaret) cs
  | '<', '@' :: cs => extend "<@" (some .arrowAt) cs
  | '<', cs => extend "<" (some .lt) cs
  | '>', '=' :: cs => extend ">=" (some .gtEq) cs
  | '>', '>' :: cs => extend ">>" (some .shiftRight) cs
  | '>', '^' :: cs => extend ">^" (some .gtCaret) cs
  | '>', cs => extend ">" (some .gt) cs
  | ':', ':' :: cs => give .doubleColon cs
  | ':', '=' :: cs => give .assignment cs
  | ':', cs => give .colon cs
  -- The character after `&>` is taken along with it.
  | '&', '>' :: cs => give .ampGt (cs.drop 1)
  | '&', '<' :: '|' :: cs => give .ampLtPipe cs
  | '&', '<' :: cs => extend "&<" (some .ampLt) cs
  | '&', '&' :: cs => extend "&&" (some .overlap) cs
  | '&', cs => extend "&" (some .ampersand) cs
  | '^', '@' :: cs => give .caretAt cs
  | '^', cs => give .caret cs
  | '~', '*' :: cs => extend "~*" (some .tildeStar) cs
  | '~', '=' :: cs => extend "~=" (some .tildeEq) cs
  | '~', '~' :: '*' :: cs => extend "~~*" (some .doubleTildeStar) cs
  | '~', '~' :: cs => extend "~~" (some .doubleTilde) cs
  | '~', cs => extend "~" (some .tilde) cs
  | '#', '-' :: cs => extend "#-" (some .hashMinus) cs
  | '#', '>' :: '>' :: cs => extend "#>>" (some .hashLongArrow) cs
  | '#', '>' :: cs => extend "#>" (some .hashArrow) cs
  | '#', '#' :: cs => extend "##" (some .doubleSharp) cs
  | '#', cs => extend "#" (some .sharp) cs
  | '@', '@' :: cs => give .atAt cs
  | '@', '-' :: '@' :: cs => give .atDashAt cs
  | '@', '-' :: cs => extend "@-" none cs
  | '@', '>' :: cs => give .atArrow cs
  | '@', '?' :: cs => give .atQuestion cs
  | '@', cs => give .atSign cs
  | '?', '|' :: '|' :: cs => give .questionDoublePipe cs
  | '?', '|' :: cs => give .questionPipe cs
  | '?', '&' :: cs => give .questionAnd cs
  | '?', '-' :: '|' :: cs => give .questionDashPipe cs
  | '?', '-' :: cs => give .questionDash cs
  | '?', '#' :: cs => give .questionSharp cs
  -- The character after a lone question mark is taken along with it.
  | '?', cs => give .question (cs.drop 1)
  | _, _ => none

/-- The lexeme in front of a nonempty text. `afterWord` tells that a word stands directly before
it, which lets a period come before an underscore. -/
def next (afterWord : Bool) (c : Char) (rest : List Char) : Step :=
  match c, rest with
  | ' ', _ | '\t', _ | '\n', _ | '\r', _ => .ok (none, rest)
  | 'b', '\'' :: cs | 'B', '\'' :: cs => text .bits (quotedBody '\'' cs)
  | 'b', '"' :: cs | 'B', '"' :: cs => text .doubleBits (quotedBody '"' cs)
  | 'n', '\'' :: cs | 'N', '\'' :: cs => text .national (quotedBody '\'' cs)
  | 'e', '\'' :: cs | 'E', '\'' :: cs => text .escaped (escapedBody (cs.length + 1) cs)
  | 'u', '&' :: '\'' :: cs | 'U', '&' :: '\'' :: cs =>
    text .unicode (unicodeBody (cs.length + 1) cs)
  | 'x', '\'' :: cs | 'X', '\'' :: cs => text .hex (backslashedBody cs)
  | '\'', cs => text .plain (quotedBody '\'' cs)
  | '"', cs =>
    match quotedBody '"' cs with
    | some (body, rest) => .ok (some (.word ⟨String.ofList body, true, none⟩), rest)
    | none => .error .unexpected
  | '.', '_' :: _ => if afterWord then give .period rest else .error .unexpected
  | '$', cs => dollar cs
  | c, rest =>
    if c.isDigit || c == '.' then number (c :: rest)
    else match symbolic c rest with
      | some step => step
      | none =>
        if isWordStart c then wordFrom [c] rest
        else if isBlank c then .ok (none, rest)
        else .ok (some (.other c), rest)

/-- All lexemes of a text; `fuel` bounds their number, and the length of the text is enough. -/
def all : Nat → Bool → List Char → Except Fault (List Token)
  | _, _, [] => .ok []
  | 0, _, _ => .error .unexpected
  | fuel + 1, afterWord, c :: rest =>
    match next afterWord c rest with
    | .error fault => .error fault
    | .ok (none, rest) => all fuel false rest
    | .ok (some token, rest) =>
      let isWord := match token with
        | .word _ => true
        | _ => false
      (all fuel isWord rest).map (token :: ·)

end Scan

/-- The tokens of a text, without blanks and comments. -/
def tokenize (s : String) : Except Fault (List Token) :=
  Scan.all s.length false s.toList

end GeoLayers.Sql
