import GeoLayers.Text.Blank

/-!
Names in statements. A name always stands between double quotes, and a quote inside it is written
twice.
-/

namespace GeoLayers

/-- The characters of a name with every double quote written twice. -/
def doubledQuotes : List Char → List Char
  | [] => []
  | c :: cs => if c = '"' then '"' :: '"' :: doubledQuotes cs else c :: doubledQuotes cs

/-- A name between double quotes. -/
def quoteName (name : String) : String :=
  String.ofList ('"' :: doubledQuotes name.toList ++ ['"'])

/-- A column of the table with an alias. -/
def columnOf (table column : String) : String := quoteName table ++ "." ++ quoteName column

end GeoLayers
