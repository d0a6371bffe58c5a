import GeoLayers.Number.Binary
import GeoLayers.Sql.Expr
import GeoLayers.Sql.Lexer

/-!
Parsers over a list of tokens, and the small parsers that the grammar is built from. A parser
either fails with a fault or gives a result and the tokens that follow; a failed attempt leaves
the tokens as they were (`attempt`), but running out of nesting is final.
-/

namespace GeoLayers.Sql

/-- A parser reads from the front of a list of tokens. -/
abbrev Parser := StateT (List Token) (Except Fault)

namespace Parser

/-- Fails at the token in front. -/
def fail {α : Type} : Parser α := fun _ => .error .unexpected

/-- The token in front, which stays. -/
def peek? : Parser (Option Token) := fun ts => .ok (ts.head?, ts)

/-- The `n`th token from the front, counted from zero. -/
def peekAt? (n : Nat) : Parser (Option Token) := fun ts => .ok (ts[n]?, ts)

/-- The keyword in front. -/
def peekKeyword? : Parser (Option Keyword) := fun ts => .ok (ts.head?.bind Token.keyword?, ts)

/-- Takes the token in front. -/
def next : Parser Token
  | [] => .error .unexpected
  | t :: ts => .ok (t, ts)

/-- Whether a symbol is in front. -/
def peekSymbol (s : Symbol) : Parser Bool := fun ts => .ok (ts.head? == some (.symbol s), ts)

/-- Takes a symbol if it is in front, and tells whether it was. -/
def symbol? (s : Symbol) : Parser Bool
  | .symbol s' :: ts => if s = s' then .ok (true, ts) else .ok (false, .symbol s' :: ts)
  | ts => .ok (false, ts)

/-- Takes a symbol that has to be in front. -/
def symbol (s : Symbol) : Parser Unit := do
  if ← symbol? s then pure () else fail

/-- Takes a keyword if it is in front, and tells whether it was. -/
def keyword? (k : Keyword) : Parser Bool
  | t :: ts => if t.keyword? = some k then .ok (true, ts) else .ok (false, t :: ts)
  | [] => .ok (false, [])

/-- Takes a keyword that has to be in front. -/
def keyword (k : Keyword) : Parser Unit := do
  if ← keyword? k then pure () else fail

/-- What follows a row of keywords in front of a list of tokens. -/
def afterKeywords : List Keyword → List Token → Option (List Token)
  | [], ts => some ts
  | _ :: _, [] => none
  | k :: ks, t :: ts => if t.keyword? = some k then afterKeywords ks ts else none

/-- Takes a row of keywords if all of it is in front. -/
def keywords? (ks : List Keyword) : Parser Bool := fun ts =>
  match afterKeywords ks ts with
  | some rest => .ok (true, rest)
  | none => .ok (false, ts)

/-- Takes a row of keywords that has to be in front. -/
def keywords (ks : List Keyword) : Parser Unit := do
  if ← keywords? ks then pure () else fail

/-- Takes one of several keywords if it is in front. -/
def oneOf? (ks : List Keyword) : Parser (Option Keyword)
  | t :: ts =>
    match t.keyword? with
    | some k => if k ∈ ks then .ok (some k, ts) else .ok (none, t :: ts)
    | none => .ok (none, t :: ts)
  | [] => .ok (none, [])

/-- The result of a parser, or nothing where it fails. -/
def attempt {α : Type} (p : Parser α) : Parser (Option α) := fun ts =>
  match p ts with
  | .ok (x, rest) => .ok (some x, rest)
  | .error .tooDeep => .error .tooDeep
  | .error .unexpected => .ok (none, ts)

/-- The result of a parser behind a condition. -/
def whenever {α : Type} (condition : Parser Bool) (p : Parser α) : Parser (Option α) := do
  if ← condition then some <$> p else pure none

/-- One or more items with commas between them, at most `fuel` of them. -/
def commaLoop {α : Type} (item : Parser α) : Nat → Parser (List α)
  | 0 => fail
  | fuel + 1 => do
    let x ← item
    if ← symbol? .comma then
      let xs ← commaLoop item fuel
      pure (x :: xs)
    else pure [x]

/-- One or more items with commas between them. -/
def commaSeparated {α : Type} (item : Parser α) : Parser (List α) := fun ts =>
  commaLoop item (ts.length + 1) ts

/-- A parser between round brackets. -/
def bracketed {α : Type} (p : Parser α) : Parser α := do
  symbol .lParen
  let x ← p
  symbol .rParen
  pure x

end Parser

/-- The name that a word is. -/
def Word.ident (w : Word) : Ident := ⟨w.value, if w.quoted then .double else .bare⟩

namespace Parser

/-- A name. -/
def ident : Parser Ident := do
  match ← next with
  | .word w => pure w.ident
  | .text .plain body => pure ⟨body, .single⟩
  | _ => fail

/-- Names with periods between them, at most `fuel` of them. -/
def pathLoop : Nat → Parser (List Ident)
  | 0 => fail
  | fuel + 1 => do
    let name ← ident
    if ← symbol? .period then
      let names ← pathLoop fuel
      pure (name :: names)
    else pure [name]

/-- A dotted name. -/
def path : Parser (List Ident) := fun ts => pathLoop (ts.length + 1) ts

/-- A whole number below 2^64. -/
def count : Parser Nat := do
  match ← next with
  | .number digits _ =>
    match Scan.digitsValue? 10 digits.toList with
    | some n => if n < Number.words64 then pure n else fail
    | none => fail
  | _ => fail

/-- The text of a string constant, for which a plain word may stand. -/
def textBody : Parser String := do
  match ← next with
  | .word w => if w.keyword.isNone then pure w.value else fail
  | .text .plain body | .text .escaped body | .text .unicode body => pure body
  | _ => fail

/-- A constant. -/
def literal : Parser Literal := do
  match ← next with
  | .word w =>
    match w.keyword with
    | some .TRUE => pure (.boolean true)
    | some .FALSE => pure (.boolean false)
    | some .NULL => pure .null
    | some _ => fail
    | none => if w.quoted then pure (.doubleQuoted w.value) else fail
  | .number digits long => pure (.number digits long)
  | .text kind body => pure (.text kind body)
  | .dollarText tag body => pure (.dollarText tag body)
  | .placeholder name => pure (.placeholder name)
  | .symbol .colon => named ":"
  | .symbol .atSign => named "@"
  | _ => fail
where
  named (mark : String) : Parser Literal := do
    match ← next with
    | .word w => pure (.placeholder (mark ++ w.value))
    | .number digits false => pure (.placeholder (mark ++ digits))
    | _ => fail

end Parser

end GeoLayers.Sql
