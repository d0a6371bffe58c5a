import GeoLayers.Proofs.Query.Plan
import GeoLayers.Proofs.Query.TablePages
import Mathlib.Data.List.Forall2

/-!
Tables that are read back from their text. The reader follows the rules for comma-separated values: a
cell may stand between double quotes, in which a double quote is written twice and all else stands for
itself; cells are apart by commas and records by line breaks, a line feed with or without a carriage
return. Whether lines without any character are records or are skipped makes no difference, because
no record is written as one.
-/

namespace GeoLayers

namespace Csv

/-! ### The reader -/

/-- Where in a record a reader is. -/
inductive Place where
  /-- In front of a cell. -/
  | start
  /-- In a cell without quotes. -/
  | plain
  /-- Between quotes. -/
  | quoted
  /-- Behind a quote that was between quotes: it ends the cell unless another one follows. -/
  | closed
  /-- Behind a carriage return, which may have been the first character of the line. -/
  | returned (empty : Bool)
  deriving DecidableEq, Repr

/-- What a line ends with: a record, unless nothing was in it and empty lines are skipped. -/
def endLine (skips empty : Bool) (cells : List String) : List (List String) :=
  if skips && empty then [] else [cells]

/-- Reads records, from a place in a cell on that has some characters and comes behind some cells. -/
def readFrom (skips : Bool) (place : Place) (cell : List Char) (cells : List String) :
    List Char → Option (List (List String))
  | [] =>
    match place with
    | .start => some (if cells.isEmpty then [] else [cells ++ [""]])
    | .plain | .closed => some [cells ++ [String.ofList cell]]
    | .quoted | .returned _ => none
  | c :: cs =>
    match place with
    | .quoted =>
      if c = '"' then readFrom skips .closed cell cells cs
      else readFrom skips .quoted (cell ++ [c]) cells cs
    | .returned empty =>
      if c = '\n' then
        (readFrom skips .start [] [] cs).map
          (endLine skips empty (cells ++ [String.ofList cell]) ++ ·)
      else none
    | .start | .plain | .closed =>
      let empty := cells.isEmpty && place = .start
      if c = ',' then readFrom skips .start [] (cells ++ [String.ofList cell]) cs
      else if c = '\n' then
        (readFrom skips .start [] [] cs).map
          (endLine skips empty (cells ++ [String.ofList cell]) ++ ·)
      else if c = '\r' then readFrom skips (.returned empty) cell cells cs
      else if c = '"' then
        if place = .start then readFrom skips .quoted [] cells cs
        else if place = .closed then readFrom skips .quoted (cell ++ ['"']) cells cs
        else none
      else if place = .closed then none
      else readFrom skips .plain (cell ++ [c]) cells cs

/-- The records of a text. None if it breaks the rules. -/
def read (skips : Bool) (text : String) : Option (List (List String)) :=
  readFrom skips .start [] [] text.toList

/-! ### Cells -/

variable {skips : Bool} {cells : List String}

theorem needsQuotes_eq_false_iff {c : Char} :
    needsQuotes c = false ↔ c ≠ ',' ∧ c ≠ '"' ∧ c ≠ '\n' ∧ c ≠ '\r' := by
  simp [needsQuotes, and_assoc]

theorem ne_empty_of_any {s : String} (h : s.toList.any needsQuotes = true) : s ≠ "" := by
  rintro rfl
  cases h

/-- Characters that need no quotes go on with a cell. -/
theorem readFrom_plain {cs : List Char} (h : ∀ c ∈ cs, needsQuotes c = false) (cell rest : List Char) :
    readFrom skips .plain cell cells (cs ++ rest) = readFrom skips .plain (cell ++ cs) cells rest := by
  induction cs generalizing cell with
  | nil => rw [List.nil_append, List.append_nil]
  | cons c cs ih =>
      rw [List.forall_mem_cons] at h
      have hc := needsQuotes_eq_false_iff.1 h.1
      have hstep : readFrom skips .plain cell cells (c :: (cs ++ rest)) =
          readFrom skips .plain (cell ++ [c]) cells (cs ++ rest) := by
        rw [readFrom]
        simp [hc]
      rw [List.cons_append, hstep, ih h.2, List.append_assoc]
      rfl

/-- Between quotes the doubled text of a cell stands for the cell. -/
theorem readFrom_doubled (cs cell rest : List Char) :
    readFrom skips .quoted cell cells (doubled cs ++ '"' :: rest) =
      readFrom skips .closed (cell ++ cs) cells rest := by
  induction cs generalizing cell with
  | nil =>
      rw [doubled, List.nil_append, List.append_nil, readFrom]
      simp
  | cons c cs ih =>
      rw [doubled]
      split
      case isTrue heq =>
        subst heq
        have hstep : readFrom skips .quoted cell cells ('"' :: '"' :: (doubled cs ++ '"' :: rest)) =
            readFrom skips .quoted (cell ++ ['"']) cells (doubled cs ++ '"' :: rest) := by
          rw [readFrom]
          simp only [if_true]
          rw [readFrom]
          simp
        rw [List.cons_append, List.cons_append, hstep, ih, List.append_assoc]
        rfl
      case isFalse hne =>
        have hstep : readFrom skips .quoted cell cells (c :: (doubled cs ++ '"' :: rest)) =
            readFrom skips .quoted (cell ++ [c]) cells (doubled cs ++ '"' :: rest) := by
          rw [readFrom]
          simp [hne]
        rw [List.cons_append, hstep, ih, List.append_assoc]
        rfl

/-- Where a reader is behind the text of a cell. -/
def placeBehind (s : String) : Place :=
  if s = "" then .start else if s.toList.any needsQuotes then .closed else .plain

theorem readFrom_cellText (s : String) (rest : List Char) :
    readFrom skips .start [] cells ((cellText s).toList ++ rest) =
      readFrom skips (placeBehind s) s.toList cells rest := by
  unfold cellText placeBehind
  by_cases hquotes : s.toList.any needsQuotes = true
  · have hne := ne_empty_of_any hquotes
    have hstart : readFrom skips .start [] cells ('"' :: (doubled s.toList ++ '"' :: rest)) =
        readFrom skips .quoted [] cells (doubled s.toList ++ '"' :: rest) := by
      rw [readFrom]
      simp
    rw [if_pos hquotes, if_neg hne, if_pos hquotes, String.toList_ofList, List.cons_append,
      List.cons_append, List.append_assoc, List.singleton_append, hstart, readFrom_doubled,
      List.nil_append]
  · rw [if_neg hquotes, if_neg hquotes]
    split
    case isTrue hempty =>
      rw [hempty]
      rfl
    case isFalse hne =>
      obtain ⟨c, cs, hcs⟩ := List.exists_cons_of_ne_nil (mt String.toList_eq_nil_iff.1 hne)
      have hplain : ∀ c ∈ s.toList, needsQuotes c = false := by simpa using hquotes
      rw [hcs, List.forall_mem_cons] at hplain
      have hc := needsQuotes_eq_false_iff.1 hplain.1
      have hstart : readFrom skips .start [] cells (c :: (cs ++ rest)) =
          readFrom skips .plain [c] cells (cs ++ rest) := by
        rw [readFrom]
        simp [hc]
      rw [hcs, List.cons_append, hstart, readFrom_plain hplain.2]
      rfl

/-- A comma ends a cell. -/
theorem readFrom_comma (s : String) (rest : List Char) :
    readFrom skips (placeBehind s) s.toList cells (',' :: rest) =
      readFrom skips .start [] (cells ++ [s]) rest := by
  have hself : String.ofList s.toList = s := String.ofList_toList
  unfold placeBehind
  split
  · rw [readFrom]
    simp [hself]
  · split
    · rw [readFrom]
      simp [hself]
    · rw [readFrom]
      simp [hself]

/-- A line feed ends a cell and its record. -/
theorem readFrom_lineFeed (s : String) (rest : List Char) :
    readFrom skips (placeBehind s) s.toList cells ('\n' :: rest) =
      (readFrom skips .start [] [] rest).map
        (endLine skips (cells.isEmpty && s = "") (cells ++ [s]) ++ ·) := by
  have hself : String.ofList s.toList = s := String.ofList_toList
  unfold placeBehind
  split
  case isTrue hempty =>
    rw [readFrom]
    simp [hempty]
  case isFalse hne =>
    split
    · rw [readFrom]
      simp [hself, hne]
    · rw [readFrom]
      simp [hself, hne]

/-! ### Records -/

theorem readFrom_cells (s : String) (more : List String) (rest : List Char) :
    readFrom skips .start [] cells
        ((",".intercalate ((s :: more).map cellText)).toList ++ '\n' :: rest) =
      (readFrom skips .start [] [] rest).map
        (endLine skips (cells.isEmpty && s = "" && more.isEmpty) (cells ++ s :: more) ++ ·) := by
  induction more generalizing s cells with
  | nil =>
      rw [List.map_singleton, String.intercalate_singleton, readFrom_cellText, readFrom_lineFeed]
      simp
  | cons t more ih =>
      have htext : (",".intercalate ((s :: t :: more).map cellText)).toList ++ '\n' :: rest =
          (cellText s).toList ++
            ',' :: ((",".intercalate ((t :: more).map cellText)).toList ++ '\n' :: rest) := by
        rw [List.map_cons, List.map_cons, String.intercalate_cons_cons, String.toList_append,
          String.toList_append]
        simp
      have hsome : (cells ++ [s]).isEmpty = false := by cases cells <;> rfl
      rw [htext, readFrom_cellText, readFrom_comma, ih, hsome, List.append_assoc]
      simp

theorem cellText_eq_empty_iff {s : String} : cellText s = "" ↔ s = "" := by
  unfold cellText
  split
  case isTrue hquotes =>
    have hne := ne_empty_of_any hquotes
    simp [hne, ← String.toList_inj]
  case isFalse => rfl

/-- Only a single empty cell makes a line without any character. -/
theorem line_eq_empty_iff {s : String} {more : List String} :
    ",".intercalate ((s :: more).map cellText) = "" ↔ s = "" ∧ more = [] := by
  cases more with
  | nil => rw [List.map_singleton, String.intercalate_singleton, cellText_eq_empty_iff, eq_self, and_true]
  | cons t more =>
      rw [List.map_cons, List.map_cons, String.intercalate_cons_cons]
      constructor
      · intro h
        have hchars := congrArg String.toList h
        simp [String.toList_append] at hchars
      · rintro ⟨-, hmore⟩
        cases hmore

theorem readFrom_recordText {record : List String} (hne : record ≠ []) (rest : List Char) :
    readFrom skips .start [] [] ((recordText record).toList ++ rest) =
      (readFrom skips .start [] [] rest).map (record :: ·) := by
  obtain ⟨s, more, rfl⟩ := List.exists_cons_of_ne_nil hne
  unfold recordText
  by_cases hempty : s = "" ∧ more = []
  · obtain ⟨rfl, rfl⟩ := hempty
    -- two quotes are a cell, so the line counts
    change readFrom skips .start [] [] ('"' :: '"' :: '\n' :: rest) = _
    simp [readFrom, endLine]
  · have hline : (",".intercalate ((s :: more).map cellText)).isEmpty = false := by
      rw [Bool.eq_false_iff, ne_eq, String.isEmpty_iff, line_eq_empty_iff]
      exact hempty
    have hfull : (([] : List String).isEmpty && decide (s = "") && more.isEmpty) = false := by
      simpa using hempty
    dsimp only
    rw [hline, if_neg Bool.false_ne_true, String.toList_append, List.append_assoc]
    refine (readFrom_cells s more rest).trans ?_
    rw [hfull, endLine, Bool.and_false, if_neg Bool.false_ne_true]
    rfl

/-- Records that are written one after the other are read back. -/
theorem readFrom_join {records : List (List String)} (hne : ∀ record ∈ records, record ≠ []) :
    readFrom skips .start [] [] (String.join (records.map recordText)).toList = some records := by
  induction records with
  | nil => rfl
  | cons record records ih =>
      rw [List.forall_mem_cons] at hne
      rw [List.map_cons, String.join_cons, String.toList_append, readFrom_recordText hne.1, ih hne.2]
      rfl

/-! ### Rows -/

/-- The text of a value: nothing for null, a text itself, and else its JSON text. -/
inductive ValueText : Json → String → Prop where
  | null : ValueText .null ""
  | text (s : String) : ValueText (.text s) s
  | other {value : Json} (hnull : value ≠ .null) (htext : ∀ s, value ≠ .text s) :
      ValueText value value.compress

/-- The cells of the geometry of a row: the coordinates of a point, or nothing if it is another
geometry or there is none. -/
inductive PointCells (row : Attributes) : List String → Prop where
  | point {text : String} {c : Coord Float} (hfound : row.find? geometryColumn = some (.text text))
      (hshape : Shape.ofText text = .ok (.point c)) :
      PointCells row [Numeric.text c.x, Numeric.text c.y]
  | other (h : ∀ text, row.find? geometryColumn = some (.text text) →
      ∃ shape : Shape Float, Shape.ofText text = .ok shape ∧ ∀ c, shape ≠ .point c) :
      PointCells row ["", ""]

/-- The record of a row: the values of some columns, and the coordinates of a point behind them if
there are columns for them. -/
inductive RecordOf (points : Prop) (names : List String) (row : Attributes) :
    List String → Prop where
  | placed {values coordinates : List String} (h : points)
      (hvalues : names.Forall₂ (fun name cell => ∃ value,
        row.find? name = some value ∧ ValueText value cell) values)
      (hcoordinates : PointCells row coordinates) :
      RecordOf points names row (values ++ coordinates)
  | plain {values : List String} (h : ¬points)
      (hvalues : names.Forall₂ (fun name cell => ∃ value,
        row.find? name = some value ∧ ValueText value cell) values) :
      RecordOf points names row values

variable {kind : GeometryKind} {columns : Columns} {row : Attributes} {rows : List Attributes}

theorem valueText_cell (value : Json) : ValueText value (cell (some value)) := by
  cases value with
  | null => exact .null
  | text s => exact .text s
  | bool b => exact .other nofun nofun
  | integer n => exact .other nofun nofun
  | float x => exact .other nofun nofun
  | array items => exact .other nofun nofun
  | object members => exact .other nofun nofun

/-- The cells of the coordinates of a point, or empty ones without it. -/
def coordinateCells (point : Option (Coord Float)) : List String :=
  [(point.map fun c => Numeric.text c.x).getD "", (point.map fun c => Numeric.text c.y).getD ""]

theorem pointCells_of_pointIn {point : Option (Coord Float)} (h : pointIn row = .ok point) :
    PointCells row (coordinateCells point) := by
  unfold pointIn geometryIn at h
  split at h
  case h_1 text hfound =>
    cases hshape : (Shape.ofText text : Except GeometryFault (Shape Float)) with
    | error fault =>
        rw [hshape] at h
        cases h
    | ok shape =>
        rw [hshape] at h
        have hother (hpoint : ∀ c, shape ≠ .point c) : PointCells row ["", ""] := by
          refine .other fun text' hfound' => ⟨shape, ?_, hpoint⟩
          cases hfound.symm.trans hfound'
          exact hshape
        cases shape with
        | point c =>
            cases h
            exact .point hfound hshape
        | polyline paths =>
            cases h
            exact hother fun c hc => by cases hc
        | polygon rings =>
            cases h
            exact hother fun c hc => by cases hc
  case h_2 hnone =>
    cases h
    exact .other fun text hfound => absurd hfound (hnone text)

/-- The names of coordinate columns are those of no other columns. -/
theorem cells_eq (hx : xColumn ∉ columns.names) (hy : yColumn ∉ columns.names)
    (point : Option (Coord Float)) (row : Attributes) :
    Csv.cells columns point row = columns.names.map (fun name => cell (row.find? name)) ++
      if columns.points then coordinateCells point else [] := by
  have hother : ∀ name ∈ columns.names, name ≠ xColumn ∧ name ≠ yColumn := by
    intro name hname
    refine ⟨?_, ?_⟩
    · rintro rfl
      exact hx hname
    · rintro rfl
      exact hy hname
  unfold Csv.cells Columns.header
  rw [List.map_append]
  congr 1
  · apply List.map_congr_left
    intro name hname
    obtain ⟨hnx, hny⟩ := hother name hname
    simp [hnx, hny]
  · cases columns.points with
    | false => rfl
    | true =>
        have hne : yColumn ≠ xColumn := by decide
        simp [coordinateCells, hne]

/-- The columns of a table. A geometry of points stands for the columns of their coordinates. -/
theorem columns_of (kind : GeometryKind) (row : Attributes) :
    ((Columns.of kind row).points = true ↔ kind = .point ∧ geometryColumn ∈ row.keys) ∧
      (Columns.of kind row).names =
        if kind = .point ∧ geometryColumn ∈ row.keys then row.keys.filter (· ≠ geometryColumn)
        else row.keys := by
  have hpoints : (Columns.of kind row).points = true ↔ kind = .point ∧ geometryColumn ∈ row.keys := by
    simp [Columns.of, Dictionary.contains_iff_mem_keys]
  refine ⟨hpoints, ?_⟩
  have hnames : (Columns.of kind row).names =
      row.keys.filter fun key => !((Columns.of kind row).points && key == geometryColumn) := rfl
  rw [hnames]
  split
  case isTrue h =>
    rw [hpoints.2 h]
    refine List.filter_congr fun key _ => ?_
    by_cases hkey : key = geometryColumn <;> simp [hkey]
  case isFalse h =>
    rw [Bool.eq_false_iff.2 (mt hpoints.1 h)]
    simp

/-- Texts of rows are records of their cells. -/
theorem exists_records_of_mapM {texts : List String} (h : rows.mapM (rowText columns) = .ok texts) :
    ∃ records, texts = records.map recordText ∧ rows.Forall₂ (fun row record => ∃ point,
      (columns.points = true → pointIn row = .ok point) ∧ record = Csv.cells columns point row)
      records := by
  induction rows generalizing texts with
  | nil =>
      cases h
      exact ⟨[], rfl, .nil⟩
  | cons row rows ih =>
      rw [List.mapM_cons] at h
      obtain ⟨text, htext, h⟩ := exists_ok_of_bind h
      obtain ⟨others, hothers, h⟩ := exists_ok_of_bind h
      cases h
      obtain ⟨records, rfl, hrecords⟩ := ih hothers
      have hrow : ∃ point, (columns.points = true → pointIn row = .ok point) ∧
          text = recordText (Csv.cells columns point row) := by
        unfold rowText at htext
        cases hpoints : columns.points with
        | false =>
            rw [hpoints, if_neg Bool.false_ne_true] at htext
            cases htext
            exact ⟨none, nofun, rfl⟩
        | true =>
            rw [hpoints, if_pos rfl] at htext
            cases hpoint : pointIn row with
            | error fault =>
                rw [hpoint] at htext
                cases htext
            | ok point =>
                rw [hpoint] at htext
                cases htext
                exact ⟨point, fun _ => rfl, rfl⟩
      obtain ⟨point, hpoint, rfl⟩ := hrow
      exact ⟨_ :: records, rfl, .cons ⟨point, hpoint, rfl⟩ hrecords⟩

theorem recordOf_cells (hx : xColumn ∉ columns.names) (hy : yColumn ∉ columns.names)
    (hnames : ∀ name ∈ columns.names, row.contains name = true) {point : Option (Coord Float)}
    (hpoint : columns.points = true → pointIn row = .ok point) :
    RecordOf (columns.points = true) columns.names row (Csv.cells columns point row) := by
  have hvalues : columns.names.Forall₂ (fun name cell => ∃ value,
      row.find? name = some value ∧ ValueText value cell)
      (columns.names.map fun name => cell (row.find? name)) := by
    rw [List.forall₂_map_right_iff, List.forall₂_same]
    intro name hname
    obtain ⟨value, hvalue⟩ := Option.isSome_iff_exists.1 (hnames name hname)
    rw [hvalue]
    exact ⟨value, rfl, valueText_cell value⟩
  rw [cells_eq hx hy]
  cases hpoints : columns.points with
  | false =>
      rw [if_neg Bool.false_ne_true, List.append_nil]
      exact .plain Bool.false_ne_true hvalues
  | true =>
      rw [if_pos rfl]
      exact .placed rfl hvalues (pointCells_of_pointIn (hpoint hpoints))

/-- A table that is written with its header is read back: the names of its columns in order, with the
columns of coordinates at the end if the rows have points, and then a record for every row, with as
many cells as there are columns. Cells hold what their row has in the column of their place. -/
theorem table_reads_back (kind : GeometryKind) {first : Attributes}
    (hkeys : SameKeys (first :: rows)) (hne : first.keys ≠ []) (hx : xColumn ∉ first.keys)
    (hy : yColumn ∉ first.keys) {text : String} (h : table kind true (first :: rows) = .ok text)
    (skips : Bool) :
    let points := kind = .point ∧ geometryColumn ∈ first.keys
    let names := if points then first.keys.filter (· ≠ geometryColumn) else first.keys
    let header := names ++ if points then [xColumn, yColumn] else []
    first.keys.Pairwise (· < ·) ∧ ∃ records, read skips text = some (header :: records) ∧
      (∀ record ∈ records, record.length = header.length) ∧
      List.Forall₂ (RecordOf points names) (first :: rows) records := by
  intro points names header
  obtain ⟨hpoints, hnames⟩ := columns_of kind first
  have hheader : (Columns.of kind first).header = header := by
    unfold Columns.header
    rw [hnames]
    congr 1
    exact if_congr hpoints rfl rfl
  obtain ⟨texts, htexts, h⟩ := exists_ok_of_bind h
  cases h
  obtain ⟨records, rfl, hrecords⟩ := exists_records_of_mapM htexts
  have hcontains : ∀ row ∈ first :: rows, ∀ name ∈ (Columns.of kind first).names,
      row.contains name = true := by
    intro row hrow name hname
    rw [hkeys row hrow first List.mem_cons_self name, Dictionary.contains_iff_mem_keys]
    exact List.mem_of_mem_filter hname
  have hall : records.Forall₂ (fun record row =>
      record.length = header.length ∧ RecordOf points names row record) (first :: rows) := by
    refine (((List.forall₂_and_left _ _).2 ⟨hcontains, hrecords⟩).imp ?_).flip
    rintro row _ ⟨hnamed, point, hpoint, rfl⟩
    have hrecord := recordOf_cells (mt List.mem_of_mem_filter hx) (mt List.mem_of_mem_filter hy) hnamed
      hpoint
    rw [propext hpoints, hnames] at hrecord
    refine ⟨?_, hrecord⟩
    rw [Csv.cells, List.length_map, hheader]
  obtain ⟨hwidth, hrows⟩ := (List.forall₂_and_left _ _).1 hall
  -- the only column may be the one with the geometry, which leaves the coordinates
  have hheaderNe : header ≠ [] := by
    by_cases hplaced : points
    · simp [header, hplaced]
    · simpa [header, names, hplaced] using hne
  have hrecordsNe : ∀ record ∈ records, record ≠ [] := by
    rintro record hrecord rfl
    exact hheaderNe (List.length_eq_zero_iff.1 (hwidth [] hrecord).symm)
  refine ⟨first.increasing_keys, records, ?_, hwidth, hrows.flip⟩
  rw [if_pos rfl, read, String.toList_append, hheader, readFrom_recordText hheaderNe,
    readFrom_join hrecordsNe]
  rfl

theorem table_reads_back_wells :
    ∃ text, table .point true placedWells = .ok text ∧ ∀ skips, ∃ records,
      read skips text = some (["db_id", "name", xColumn, yColumn] :: records) ∧
      (∀ record ∈ records, record.length = 4) ∧
      List.Forall₂ (RecordOf True ["db_id", "name"]) placedWells records := by
  obtain ⟨first, rows, hwells⟩ := List.exists_cons_of_ne_nil (show placedWells ≠ [] by decide)
  have hall : ∀ row ∈ first :: rows, row.keys = ["db_id", "name", geometryColumn] := by
    rw [← hwells]
    decide +kernel
  have hfirst := hall first List.mem_cons_self
  obtain ⟨text, htext⟩ : ∃ text, table .point true placedWells = .ok text :=
    exists_ok_of_isOk (by decide +kernel)
  refine ⟨text, htext, fun skips => ?_⟩
  rw [hwells] at htext ⊢
  obtain ⟨-, records, hread, hwidth, hrows⟩ := table_reads_back .point (sameKeys_of_keys _ hall)
    (by rw [hfirst]; decide) (by rw [hfirst]; decide) (by rw [hfirst]; decide) htext skips
  rw [hfirst] at hread hwidth hrows
  have hplaced : geometryColumn ∈ ["db_id", "name", geometryColumn] := by decide
  have hnames : ["db_id", "name", geometryColumn].filter (· ≠ geometryColumn) = ["db_id", "name"] := by
    decide
  simp only [hplaced, and_self, if_true, hnames] at hread hwidth hrows
  exact ⟨records, hread, hwidth, hrows⟩

end Csv

end GeoLayers
