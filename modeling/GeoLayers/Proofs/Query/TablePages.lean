import GeoLayers.Proofs.Dictionary
import GeoLayers.Query.Csv

/-!
Tables that are written page by page. The columns of a table are those of its first row, so rows with
the same keys have one table however they are cut into pages: the text of a page is its records, and
the header comes in front of the first one alone.
-/

namespace GeoLayers

namespace Csv

/-- Rows that all have the same keys. -/
def SameKeys (rows : List Attributes) : Prop :=
  ∀ row ∈ rows, ∀ other ∈ rows, ∀ key, row.contains key = other.contains key

/-- The texts of pages one after the other. Only the first page has a header. -/
def pageTexts (kind : GeometryKind) (header : Bool) : List (List Attributes) → Except Error String
  | [] => .ok ""
  | page :: pages => do
    let text ← table kind header page
    let more ← pageTexts kind false pages
    pure (text ++ more)

variable {kind : GeometryKind} {columns : Columns} {rows first more : List Attributes}

theorem Columns.of_congr {row other : Attributes} (h : ∀ key, row.contains key = other.contains key) :
    of kind row = of kind other := by
  rw [of, of, Dictionary.keys_eq_of_contains h, h]

theorem sameKeys_of_keys (keys : List String) (h : ∀ row ∈ rows, row.keys = keys) : SameKeys rows := by
  intro row hrow other hother key
  rw [Bool.eq_iff_iff, Dictionary.contains_iff_mem_keys, Dictionary.contains_iff_mem_keys, h row hrow,
    h other hother]

theorem SameKeys.exists_columns (h : SameKeys rows) (kind : GeometryKind) :
    ∃ columns, ∀ row ∈ rows, Columns.of kind row = columns := by
  cases rows with
  | nil => exact ⟨⟨[], false⟩, by simp⟩
  | cons first rows =>
      exact ⟨Columns.of kind first, fun row hmem => Columns.of_congr (h row hmem first (by simp))⟩

/-- The text of a table is its header, if it has one, and the record of every row. Only without rows
the header is missing. -/
theorem table_eq (hcolumns : ∀ row ∈ rows, Columns.of kind row = columns) {header : Bool}
    (hheader : header = true → rows ≠ []) :
    table kind header rows = (rows.mapM (rowText columns)).map fun records =>
      (if header then recordText columns.header else "") ++ String.join records := by
  cases rows with
  | nil =>
      cases header with
      | true => exact absurd rfl (hheader rfl)
      | false => rfl
  | cons first rows =>
      rw [← hcolumns first (by simp)]
      rfl

/-- The text of the first rows, with the header, followed by the text of the others is the text of
all rows; and what fails first is the same. -/
theorem table_append {header : Bool} (hheader : header = true → first ≠ [])
    (hkeys : SameKeys (first ++ more)) :
    table kind header (first ++ more) = (table kind header first).bind fun text =>
      (table kind false more).map (text ++ ·) := by
  obtain ⟨columns, hcolumns⟩ := hkeys.exists_columns kind
  obtain ⟨hfirst, hmore⟩ := List.forall_mem_append.1 hcolumns
  have hall : header = true → first ++ more ≠ [] :=
    fun h => List.append_ne_nil_of_left_ne_nil (hheader h) more
  have hnone : false = true → more ≠ [] := nofun
  rw [table_eq hcolumns hall, table_eq hfirst hheader, table_eq hmore hnone, List.mapM_append]
  cases first.mapM (rowText columns) with
  | error e => rfl
  | ok records =>
      cases more.mapM (rowText columns) with
      | error e => rfl
      | ok rest =>
          apply congrArg Except.ok
          dsimp only
          rw [String.join_append, if_neg Bool.false_ne_true, String.empty_append,
            String.append_assoc]

/-- Pages of rows with the same keys are the pages of one table. -/
theorem pageTexts_eq {header : Bool} (hheader : header = true → first ≠ [])
    {pages : List (List Attributes)} (hkeys : SameKeys (first ++ pages.flatten)) :
    pageTexts kind header (first :: pages) = table kind header (first ++ pages.flatten) := by
  induction pages generalizing first header with
  | nil =>
      rw [List.flatten_nil, List.append_nil]
      unfold pageTexts
      cases table kind header first with
      | error e => rfl
      | ok text => exact congrArg Except.ok (String.append_empty)
  | cons page pages ih =>
      rw [List.flatten_cons] at hkeys ⊢
      have hrest : SameKeys (page ++ pages.flatten) := fun row hrow other hother =>
        hkeys row (List.mem_append_right _ hrow) other (List.mem_append_right _ hother)
      have hnone : false = true → page ≠ [] := nofun
      rw [table_append hheader hkeys, ← ih hnone hrest]
      rfl

/-- A table can be written page by page. Its text is that of the first rows, which have the header,
followed by that of the others, and it cannot be written exactly if one of the two cannot. So the
texts of any number of pages, only the first with a header, are the text of all rows. -/
theorem table_by_pages (kind : GeometryKind) (header : Bool) (hne : first ≠ []) :
    (∀ more, SameKeys (first ++ more) →
      (∀ text, table kind header (first ++ more) = .ok text →
        ∃ start rest, table kind header first = .ok start ∧ table kind false more = .ok rest ∧
          text = start ++ rest) ∧
      ((∃ e, table kind header (first ++ more) = .error e) ↔
        (∃ e, table kind header first = .error e) ∨ ∃ e, table kind false more = .error e)) ∧
    ∀ pages, SameKeys (first ++ pages.flatten) →
      pageTexts kind header (first :: pages) = table kind header (first ++ pages.flatten) := by
  refine ⟨fun more hkeys => ?_, fun pages hkeys => pageTexts_eq (fun _ => hne) hkeys⟩
  rw [table_append (fun _ => hne) hkeys]
  cases table kind header first with
  | error e => simp [Except.bind]
  | ok start =>
      cases table kind false more with
      | error e => simp [Except.bind, Except.map]
      | ok rest => simp [Except.bind, Except.map, eq_comm]

/-- Rows of wells: with a place, without one, and with a name that needs quotes. -/
def placedWells : List Attributes :=
  [[("db_id", .integer 1), ("name", .text "a, \"b\""), (geometryColumn, .text "POINT(10 20)")],
    [("db_id", .integer 2), ("name", .null), (geometryColumn, .null)],
    [("db_id", .null), ("name", .text "line\nfeed"), (geometryColumn, .text "LINESTRING(0 0,1 1)")]].map
      Dictionary.ofList

theorem table_by_pages_wells :
    let first := placedWells.take 1
    let more := placedWells.drop 1
    first ≠ [] ∧ SameKeys (first ++ more) ∧ (table .point true (first ++ more)).isOk = true ∧
      ((∀ text, table .point true (first ++ more) = .ok text →
          ∃ start rest, table .point true first = .ok start ∧ table .point false more = .ok rest ∧
            text = start ++ rest) ∧
        ((∃ e, table .point true (first ++ more) = .error e) ↔
          (∃ e, table .point true first = .error e) ∨ ∃ e, table .point false more = .error e)) ∧
      pageTexts .point true [first, more.take 1, [], more.drop 1] =
        table .point true (first ++ more) := by
  intro first more
  have hne : first ≠ [] := by decide
  have hkeys : SameKeys (first ++ more) :=
    sameKeys_of_keys ["db_id", "name", geometryColumn] (by decide +kernel)
  have hpages : first ++ [more.take 1, [], more.drop 1].flatten = first ++ more := rfl
  obtain ⟨happend, hwhole⟩ := table_by_pages .point true hne
  exact ⟨hne, hkeys, by decide +kernel, happend more hkeys, hwhole _ (hpages ▸ hkeys)⟩

end Csv

end GeoLayers
