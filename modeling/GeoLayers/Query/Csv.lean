import GeoLayers.Query.Assemble

/-!
Rows as comma-separated values, a row a line. Points are written as two columns of
coordinates, other geometries as their text.
-/

namespace GeoLayers.Csv

/-- The columns of the coordinates of points. -/
def xColumn : String := "geometry_x_location"

def yColumn : String := "geometry_y_location"

/-- Whether a character makes quotes necessary. -/
def needsQuotes (c : Char) : Bool := c == ',' || c == '"' || c == '\n' || c == '\r'

/-- The characters of a cell with every double quote written twice. -/
def doubled : List Char → List Char
  | [] => []
  | c :: cs => if c = '"' then '"' :: '"' :: doubled cs else c :: doubled cs

/-- A cell, between quotes if it needs them. -/
def cellText (cell : String) : String :=
  if cell.toList.any needsQuotes then
    String.ofList ('"' :: doubled cell.toList ++ ['"'])
  else cell

/-- A record with its line feed. A record without any characters is written as two quotes, to tell
it from an empty line. -/
def recordText (cells : List String) : String :=
  let line := ",".intercalate (cells.map cellText)
  (if line.isEmpty then "\"\"" else line) ++ "\n"

/-- The text of a value in a cell. -/
def cell : Option Json → String
  | none | some .null => ""
  | some (.text s) => s
  | some value => value.compress

/-- The columns of a table. -/
structure Columns where
  /-- The columns that are taken from the rows. -/
  names : List String
  /-- Whether the coordinates of points follow. -/
  points : Bool

/-- The columns of a table by its first row. -/
def Columns.of (kind : GeometryKind) (first : Attributes) : Columns :=
  let points := kind = .point && first.contains geometryColumn
  ⟨first.keys.filter fun key => !(points && key == geometryColumn), points⟩

/-- The names of all columns. -/
def Columns.header (columns : Columns) : List String :=
  columns.names ++ (if columns.points then [xColumn, yColumn] else [])

/-- The coordinates in a row, if its geometry is a point. -/
def pointIn (row : Attributes) : Except GeometryFault (Option (Coord Float)) :=
  (geometryIn row).map fun geometry =>
    match geometry with
    | some ⟨.point c, _⟩ => some c
    | _ => none

/-- The cells of a row. A column of the row that has the name of a coordinate column holds the
coordinate. -/
def cells (columns : Columns) (point : Option (Coord Float)) (row : Attributes) : List String :=
  columns.header.map fun name =>
    if columns.points && name == xColumn then (point.map fun c => Numeric.text c.x).getD ""
    else if columns.points && name == yColumn then (point.map fun c => Numeric.text c.y).getD ""
    else cell (row.find? name)

/-- The record of a row. -/
def rowText (columns : Columns) (row : Attributes) : Except Error String :=
  if columns.points then
    match pointIn row with
    | .error fault => .error (.geometry fault)
    | .ok point => .ok (recordText (cells columns point row))
  else .ok (recordText (cells columns none row))

/-- A table of rows, with a header or without. No rows give an empty text. -/
def table (kind : GeometryKind) (header : Bool) (rows : List Attributes) : Except Error String :=
  match rows with
  | [] => .ok ""
  | first :: _ => do
    let columns := Columns.of kind first
    let records ← rows.mapM (rowText columns)
    let head := if header then recordText columns.header else ""
    pure (head ++ String.join records)

end GeoLayers.Csv
