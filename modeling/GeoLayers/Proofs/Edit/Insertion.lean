import GeoLayers.Proofs.Dictionary
import GeoLayers.Proofs.Edit.Values
import GeoLayers.Proofs.Statement

/-!
What an insertion comes to. It takes the attributes of a feature for the columns of the layer only
if each is the attribute of a column and each column has one. Attributes come in the order of their
keys and columns in the order of the catalog; the statement keeps to the columns.
-/

namespace GeoLayers.Edit

open Statement (Piece placeholder)

variable {layer : Layer} {catalog : Catalog} {attributes : Attributes} {columns : List Field}
  {result : Except Error Statement}

/-- The part of an insertion that says which columns take which parameters. -/
def valuesText : List String → String
  | [] => " DEFAULT VALUES"
  | names => String.join [" (", ", ".intercalate (names.map quoteName), ") VALUES (",
      ", ".intercalate ((List.range names.length).map fun i => placeholder (i + 1)), ")"]

/-- The text of an insertion for columns with some names. -/
def insertText (layer : Layer) (names : List String) : String :=
  String.join ["INSERT INTO ", quoteName layer.table, valuesText names, " RETURNING ",
    quoteName layer.objectIdField, "::bigint AS object_id"]

/-- A name is that of a column beside the object id and the geometry. -/
def Insertable (layer : Layer) (catalog : Catalog) (name : String) : Prop :=
  name ∈ catalog.fields.map (·.name) ∧ name ≠ layer.objectIdField ∧ name ≠ layer.geometryField

/-- What can come of an insertion, by the attributes that it is given. -/
inductive Inserts (layer : Layer) (catalog : Catalog) (attributes : Attributes) :
    Except Error Statement → Prop
  /-- Some attributes are not for a column. -/
  | unknown {names : List String} (hsome : names ≠ []) (hincreasing : names.Pairwise (· < ·))
      (hnames : ∀ name, name ∈ names ↔
        attributes.contains name = true ∧ ¬Insertable layer catalog name) :
      Inserts layer catalog attributes (.error (.unknownAttributes names))
  /-- All attributes are for columns, and some columns have none. -/
  | missing {names : List String}
      (hknown : ∀ name, attributes.contains name = true → Insertable layer catalog name)
      (hsome : names ≠ []) (hordered : names.Sublist ((insertable layer catalog).map (·.name)))
      (hnames : ∀ name, name ∈ names ↔
        Insertable layer catalog name ∧ attributes.contains name = false) :
      Inserts layer catalog attributes (.error (.missingAttributes names))
  /-- The attributes are for the columns, and one does not fit. -/
  | unfit {fault : RequestFault}
      (hnames : ∀ name, attributes.contains name = true ↔ Insertable layer catalog name)
      (hunfit : FirstUnfit attributes (insertable layer catalog) fault) :
      Inserts layer catalog attributes (.error (.request fault))
  /-- The attributes are for the columns, and all fit. -/
  | done {binds : List Bind}
      (hnames : ∀ name, attributes.contains name = true ↔ Insertable layer catalog name)
      (honce : ((insertable layer catalog).map (·.name)).Nodup)
      (htakes : List.Forall₂ (Takes attributes) (insertable layer catalog) binds) :
      Inserts layer catalog attributes
        (.ok ⟨insertText layer ((insertable layer catalog).map (·.name)), binds⟩)

/-! ### The text -/

/-- The pieces between the table and the answer of an insertion. -/
def contentPieces (columns : List Field) (binds : List Bind) : List Piece :=
  if columns.isEmpty then [.text " DEFAULT VALUES"]
  else
    .text (" (" ++ ", ".intercalate (columns.map fun field => quoteName field.name) ++
        ") VALUES (") ::
      Statement.between ", " (binds.map fun bind => [.bind bind]) ++ [.text ")"]

theorem bindsOf_contentPieces {binds : List Bind} (h : columns.length = binds.length) :
    Statement.bindsOf (contentPieces columns binds) = binds := by
  cases columns with
  | nil =>
      obtain rfl := List.length_eq_zero_iff.1 h.symm
      rfl
  | cons field columns =>
      rw [contentPieces, List.isEmpty_cons, if_neg Bool.false_ne_true, List.cons_append,
        Statement.bindsOf, Statement.bindsOf_append, Statement.bindsOf_between]
      simp [Statement.bindsOf, List.flatMap_map]

/-- Parameters alone are numbered by their places. -/
theorem textFrom_binds (binds : List Bind) :
    Statement.textFrom 0 (Statement.between ", " (binds.map fun bind => [.bind bind])) =
      ", ".intercalate ((List.range binds.length).map fun i => placeholder (i + 1)) := by
  rw [Statement.textFrom_between]
  · congr 1
    apply List.ext_getElem <;> simp [Statement.textFrom]
  · simp [Statement.bindsOf]

theorem textFrom_contentPieces {binds : List Bind} (h : columns.length = binds.length) :
    Statement.textFrom 0 (contentPieces columns binds) = valuesText (columns.map (·.name)) := by
  cases columns with
  | nil => exact String.append_empty
  | cons field columns =>
      rw [contentPieces, List.isEmpty_cons, if_neg Bool.false_ne_true, List.cons_append,
        Statement.textFrom, Statement.textFrom_append, textFrom_binds, ← h]
      simp [valuesText, Statement.textFrom, String.append_assoc, Function.comp_def]

/-- The statement of an insertion whose columns have parameters. -/
theorem ofPieces_insertion {binds : List Bind} (h : columns.length = binds.length) :
    Statement.ofPieces (.text ("INSERT INTO " ++ quoteName layer.table) ::
        contentPieces columns binds ++
          [.text (" RETURNING " ++ quoteName layer.objectIdField ++ "::bigint AS object_id")]) =
      ⟨insertText layer (columns.map (·.name)), binds⟩ := by
  rw [Statement.ofPieces_eq, List.cons_append, Statement.textFrom, Statement.bindsOf,
    Statement.textFrom_append, Statement.bindsOf_append, textFrom_contentPieces h,
    bindsOf_contentPieces h]
  simp [insertText, Statement.textFrom, Statement.bindsOf, String.append_assoc]

/-! ### The checks -/

/-- A part of a list without repetitions is determined by its members. -/
theorem eq_filter_of_sublist {names part : List String} {test : String → Bool} (hnodup : names.Nodup)
    (hpart : part.Sublist names) (hmem : ∀ name, name ∈ part ↔ name ∈ names ∧ test name = true) :
    part = names.filter test := by
  have hkept : part.filter test = part :=
    List.filter_eq_self.2 fun name hname => ((hmem name).1 hname).2
  have hsublist : part.Sublist (names.filter test) := hkept ▸ hpart.filter test
  have hperm : part.Perm (names.filter test) := by
    rw [List.perm_ext_iff_of_nodup (hnodup.sublist hpart) (hnodup.filter test)]
    exact fun name => (hmem name).trans List.mem_filter.symm
  exact hsublist.eq_of_length hperm.length_eq

theorem mem_insertable {name : String} :
    name ∈ (insertable layer catalog).map (·.name) ↔ Insertable layer catalog name := by
  simp only [insertable, Insertable, List.mem_map, List.mem_filter, Bool.and_eq_true, bne_iff_ne]
  constructor
  · rintro ⟨field, ⟨hfield, hid, hgeometry⟩, rfl⟩
    exact ⟨⟨field, hfield, rfl⟩, hid, hgeometry⟩
  · rintro ⟨⟨field, hfield, rfl⟩, hid, hgeometry⟩
    exact ⟨field, ⟨hfield, hid, hgeometry⟩, rfl⟩

theorem nodup_insertable (h : (catalog.fields.map (·.name)).Nodup) :
    ((insertable layer catalog).map (·.name)).Nodup :=
  h.sublist (List.filter_sublist.map _)

/-- The attributes that are not for a column, in order. -/
def unknownKeys (layer : Layer) (catalog : Catalog) (attributes : Attributes) : List String :=
  attributes.keys.filter fun key => !(insertable layer catalog).any (·.name == key)

/-- The columns without an attribute, in the order of the catalog. -/
def absentNames (layer : Layer) (catalog : Catalog) (attributes : Attributes) : List String :=
  ((insertable layer catalog).map (·.name)).filter fun name => !attributes.contains name

theorem mem_unknownKeys {name : String} : name ∈ unknownKeys layer catalog attributes ↔
    attributes.contains name = true ∧ ¬Insertable layer catalog name := by
  rw [unknownKeys, List.mem_filter, ← Dictionary.contains_iff_mem_keys, ← mem_insertable]
  simp

theorem mem_absentNames {name : String} : name ∈ absentNames layer catalog attributes ↔
    Insertable layer catalog name ∧ attributes.contains name = false := by
  rw [absentNames, List.mem_filter, Bool.not_eq_true', mem_insertable]

theorem unknownKeys_eq_nil :
    unknownKeys layer catalog attributes = [] ↔
      ∀ name, attributes.contains name = true → Insertable layer catalog name := by
  simp [List.eq_nil_iff_forall_not_mem, mem_unknownKeys]

theorem absentNames_eq_nil :
    absentNames layer catalog attributes = [] ↔
      ∀ name, Insertable layer catalog name → attributes.contains name = true := by
  simp [List.eq_nil_iff_forall_not_mem, mem_absentNames]

/-- An insertion is checked for unknown attributes, then for absent ones, and then takes its
parameters. -/
theorem insertStatement_eq : insertStatement layer catalog attributes =
    if unknownKeys layer catalog attributes = [] then
      if absentNames layer catalog attributes = [] then
        (bindAll attributes (insertable layer catalog)).map fun binds =>
          Statement.ofPieces (.text ("INSERT INTO " ++ quoteName layer.table) ::
            contentPieces (insertable layer catalog) binds ++
              [.text (" RETURNING " ++ quoteName layer.objectIdField ++ "::bigint AS object_id")])
      else .error (.missingAttributes (absentNames layer catalog attributes))
    else .error (.unknownAttributes (unknownKeys layer catalog attributes)) := by
  unfold insertStatement
  refine (ite_not_isEmpty _ _ _).trans ?_
  congr 1
  refine (ite_not_isEmpty _ _ _).trans ?_
  congr 1

/-! ### The outcome -/

theorem Inserts.eq (hnodup : (catalog.fields.map (·.name)).Nodup)
    (h : Inserts layer catalog attributes result) :
    insertStatement layer catalog attributes = result := by
  rw [insertStatement_eq]
  cases h with
  | unknown hsome hincreasing hnames =>
      have heq : unknownKeys layer catalog attributes = _ :=
        Dictionary.eq_of_increasing (attributes.increasing_keys.filter _) hincreasing fun name =>
          mem_unknownKeys.trans (hnames name).symm
      rw [heq, if_neg hsome]
  | missing hknown hsome hordered hnames =>
      -- Without repetitions, the order of the catalog leaves one list with these members.
      have heq : _ = absentNames layer catalog attributes :=
        eq_filter_of_sublist (nodup_insertable hnodup) hordered fun name =>
          (hnames name).trans (mem_absentNames.symm.trans List.mem_filter)
      rw [if_pos (unknownKeys_eq_nil.2 hknown), ← heq, if_neg hsome]
  | unfit hnames hunfit =>
      rw [if_pos (unknownKeys_eq_nil.2 fun name => (hnames name).1),
        if_pos (absentNames_eq_nil.2 fun name => (hnames name).2), bindAll_eq_error hunfit]
      rfl
  | done hnames _ htakes =>
      rw [if_pos (unknownKeys_eq_nil.2 fun name => (hnames name).1),
        if_pos (absentNames_eq_nil.2 fun name => (hnames name).2), bindAll_eq_ok htakes,
        Except.map, ofPieces_insertion htakes.length_eq]

/-- Something comes of every insertion. -/
theorem exists_inserts (layer : Layer) (attributes : Attributes)
    (hnodup : (catalog.fields.map (·.name)).Nodup) :
    ∃ result, Inserts layer catalog attributes result := by
  by_cases hunknown : unknownKeys layer catalog attributes = []
  case neg =>
    exact ⟨_, .unknown hunknown (attributes.increasing_keys.filter _) fun name => mem_unknownKeys⟩
  rw [unknownKeys_eq_nil] at hunknown
  by_cases habsent : absentNames layer catalog attributes = []
  case neg =>
    exact ⟨_, .missing hunknown habsent List.filter_sublist fun name => mem_absentNames⟩
  rw [absentNames_eq_nil] at habsent
  have hnames (name : String) :
      attributes.contains name = true ↔ Insertable layer catalog name :=
    ⟨hunknown name, habsent name⟩
  have hgiven : ∀ field ∈ insertable layer catalog, attributes.contains field.name = true :=
    fun field hfield => habsent field.name (mem_insertable.1 (List.mem_map_of_mem hfield))
  rcases takes_or_unfit hgiven with ⟨binds, htakes⟩ | ⟨fault, hunfit⟩
  · exact ⟨_, .done hnames (nodup_insertable hnodup) htakes⟩
  · exact ⟨_, .unfit hnames hunfit⟩

/-- An insertion into a table whose columns have different names fails with exactly the attributes
that are not for a column, or else with exactly the columns that have no attribute, or else with the
fault of the first value that does not fit, or else it gives each column the value of its own
attribute. -/
theorem insertStatement_eq_iff (hnodup : (catalog.fields.map (·.name)).Nodup) :
    insertStatement layer catalog attributes = result ↔
      Inserts layer catalog attributes result := by
  constructor
  · rintro rfl
    obtain ⟨result, hresult⟩ := exists_inserts layer attributes hnodup
    rwa [hresult.eq hnodup]
  · exact Inserts.eq hnodup

/-- Wells with names and depths. -/
def measuredWells : Layer where
  id := 0
  name := "Wells"
  table := "db_wells"
  kind := .point

def measuredCatalog : Catalog where
  fields := [.ofColumn "db_id" "integer" false, .ofColumn "name" "text" true,
    .ofColumn "depth" "numeric" true, .ofColumn "dbasin_geom" "USER-DEFINED" true]

/-- The columns of wells keep the order of the catalog, in which the name comes before the depth. -/
theorem insertStatement_measured :
    (measuredCatalog.fields.map (·.name)).Nodup ∧
      insertStatement measuredWells measuredCatalog
          (.ofList [("depth", .null), ("name", .text "North")]) =
        .ok ⟨"INSERT INTO \"db_wells\" (\"name\", \"depth\") VALUES ($1, $2) " ++
          "RETURNING \"db_id\"::bigint AS object_id", [.text "North", .null .float]⟩ := by
  have hnodup : (measuredCatalog.fields.map (·.name)).Nodup := by decide
  have htext : insertText measuredWells ["name", "depth"] =
      "INSERT INTO \"db_wells\" (\"name\", \"depth\") VALUES ($1, $2) " ++
        "RETURNING \"db_id\"::bigint AS object_id" := by decide
  refine ⟨hnodup, (insertStatement_eq_iff hnodup).2 ?_⟩
  rw [← htext]
  refine .done ?_ (by decide) (.cons ⟨.text "North", rfl, rfl⟩ (.cons ⟨.null, rfl, rfl⟩ .nil))
  intro name
  have hkeys : (Dictionary.ofList [("depth", Json.null), ("name", .text "North")]).keys =
      ["depth", "name"] := by decide
  have hcolumns : (insertable measuredWells measuredCatalog).map (·.name) = ["name", "depth"] := by
    decide
  rw [Dictionary.contains_iff_mem_keys, ← mem_insertable, hkeys, hcolumns]
  simp [or_comm]

end GeoLayers.Edit
