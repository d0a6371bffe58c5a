import GeoLayers.Catalog.Basic
import GeoLayers.Sql.Parser.Query

/-!
Where clauses that a client gives. A clause is read as one expression and checked: it may hold no
second statement, no placeholder, no keyword of another clause and no nested query, and every name
in it has to be a column of the layer. What goes into a statement is not the client's text but the
text of the expression, with every column marked as one of the layer's own table.
-/

namespace GeoLayers

/-- A clause that was checked. -/
structure Where where
  /-- The names in the clause, sorted and each once; those of related columns have a period. -/
  fields : List String
  /-- The condition, with its names qualified. -/
  condition : Sql.Expr
  deriving Inhabited

namespace Where

/-- The words that start another clause of a query. -/
def clauseKeywords : List Sql.Keyword :=
  [.ORDER, .GROUP, .HAVING, .LIMIT, .OFFSET, .FETCH, .UNION, .INTERSECT, .EXCEPT, .WINDOW]

/-- What is wrong with a token. -/
def tokenFault? : Sql.Token → Option ClauseFault
  | .symbol .semicolon => some .severalStatements
  | .symbol .question => some .placeholder
  | .placeholder _ => some .placeholder
  | .word w =>
    if !w.quoted && w.keyword.any (· ∈ clauseKeywords) then some (.keyword w.value) else none
  | _ => none

/-- The expression that a text is. -/
def parse (text : String) : Except ClauseFault Sql.Expr :=
  match Sql.tokenize text with
  | .error _ => .error .unreadable
  | .ok tokens =>
    match tokens.findSome? tokenFault? with
    | some fault => .error fault
    | none =>
      match Sql.Parser.condition tokens with
      | .error _ => .error .unreadable
      | .ok ((e, ending), _) =>
        if ending = .setOperation then .error .notBoolean
        else if e.anyForm Sql.Form.isNestedQuery then .error .nestedQuery
        else .ok e

/-- A name between double quotes. -/
def quotedIdent (value : String) : Sql.Ident := ⟨value, .double⟩

/-- Marks every column as one of the layer's table and puts every part of a path in quotes. -/
def qualify (e : Sql.Expr) : Sql.Expr :=
  e.mapNames (fun name => .path [quotedIdent sourceAlias, quotedIdent name.value])
    fun parts => .path (parts.map fun part => quotedIdent part.value)

/-- The names in an expression, the parts of a path joined by periods. -/
def namesIn (e : Sql.Expr) : List String := sortedTexts (e.references.map (".".intercalate ·))

/-- Checks a clause. A blank one is none. -/
def check (catalog : Catalog) (includeRelated : Bool) (text : String) :
    Except Error (Option Where) :=
  if Text.isBlankText text then .ok none
  else match parse text with
    | .error fault => .error (.clause fault)
    | .ok e => do
      let fields := namesIn e
      catalog.checkNames fields includeRelated
      pure (some ⟨fields, qualify e⟩)

/-- The text of the condition. -/
def text (w : Where) : String := w.condition.render

/-- The titles of the relations that a clause refers to, once for each name. -/
def titles (w : Where) : List String :=
  w.fields.filterMap fun name => (Text.cutAt '.' name).map Prod.fst

end Where

end GeoLayers
