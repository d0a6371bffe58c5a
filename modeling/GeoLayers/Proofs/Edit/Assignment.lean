import GeoLayers.Proofs.Catalog.Names
import GeoLayers.Proofs.Dictionary
import GeoLayers.Proofs.Edit.Values
import GeoLayers.Proofs.Edit.WholeNumbers
import GeoLayers.Proofs.Statement

/-!
What a change of attributes comes to. It needs the object id and no other attribute; the attributes
that it is given beside the object id and the geometry are the columns that it sets, and the row with
the object id is the only one that it sets them in.
-/

namespace GeoLayers

namespace Catalog

variable {catalog : Catalog}

/-- Names of columns are the names of the columns that they stand for. -/
theorem exists_fields {names : List String}
    (h : ∀ name ∈ names, name ∈ catalog.fields.map (·.name)) :
    ∃ columns : List Field, columns.map (·.name) = names ∧
      ∀ field ∈ columns, catalog.field? field.name = some field := by
  induction names with
  | nil => exact ⟨[], rfl, nofun⟩
  | cons name names ih =>
      obtain ⟨hname, hnames⟩ := List.forall_mem_cons.1 h
      obtain ⟨field, hfield⟩ := Option.isSome_iff_exists.1 (hasField_iff.2 hname)
      obtain ⟨columns, rfl, hfound⟩ := ih hnames
      obtain rfl := name_of_field? hfield
      exact ⟨field :: columns, rfl, List.forall_mem_cons.2 ⟨hfield, hfound⟩⟩

end Catalog

namespace Edit

open Statement (Piece placeholder)

/-- The text of a change of columns with some names. -/
def updateText (layer : Layer) (names : List String) : String :=
  String.join ["UPDATE ", quoteName layer.table, " SET ",
    ", ".intercalate (names.mapIdx fun i name => quoteName name ++ " = " ++ placeholder (i + 1)),
    " WHERE ", quoteName layer.objectIdField, " = ", placeholder (names.length + 1)]

/-- A change is about the attributes that it is given beside the object id and the geometry. -/
def Changes (layer : Layer) (attributes : Attributes) (name : String) : Prop :=
  attributes.contains name = true ∧ name ≠ layer.objectIdField ∧ name ≠ layer.geometryField

/-- The columns of the attributes that a change is about, in the order of the keys. -/
structure Supplied (layer : Layer) (catalog : Catalog) (attributes : Attributes)
    (columns : List Field) : Prop where
  increasing : (columns.map (·.name)).Pairwise (· < ·)
  names : ∀ name, name ∈ columns.map (·.name) ↔ Changes layer attributes name
  found : ∀ field ∈ columns, catalog.field? field.name = some field

/-- What can come of a change of attributes. -/
inductive Updates (layer : Layer) (catalog : Catalog) (attributes : Attributes) :
    Except Error (Int × Option Statement) → Prop
  /-- There is no object id. -/
  | anonymous (h : ∀ value, attributes.find? layer.objectIdField = some value → value = .null) :
      Updates layer catalog attributes (.error (.missingAttributes [layer.objectIdField]))
  /-- The object id is not a whole number. -/
  | refused {value : Json} (hvalue : attributes.find? layer.objectIdField = some value)
      (hnull : value ≠ .null) (hwhole : wholeValue? value = none) :
      Updates layer catalog attributes (.error (.request (.objectIdValue value)))
  /-- Some attributes are not for a column. -/
  | unknown {id : Int} {names : List String} (hid : Identifies layer attributes id)
      (hsome : names ≠ []) (hincreasing : names.Pairwise (· < ·))
      (hnames : ∀ name, name ∈ names ↔
        Changes layer attributes name ∧ name ∉ catalog.fields.map (·.name)) :
      Updates layer catalog attributes (.error (.unknownAttributes names))
  /-- There is nothing to change. -/
  | nothing {id : Int} (hid : Identifies layer attributes id)
      (hnone : ∀ name, ¬Changes layer attributes name) :
      Updates layer catalog attributes (.ok (id, none))
  /-- The attributes are for columns, and one does not fit. -/
  | unfit {id : Int} {columns : List Field} {fault : RequestFault}
      (hid : Identifies layer attributes id) (hsupplied : Supplied layer catalog attributes columns)
      (hunfit : FirstUnfit attributes columns fault) :
      Updates layer catalog attributes (.error (.request fault))
  /-- The attributes are for columns, and all fit. -/
  | done {id : Int} {columns : List Field} {binds : List Bind}
      (hid : Identifies layer attributes id) (hsupplied : Supplied layer catalog attributes columns)
      (hsome : columns ≠ []) (htakes : List.Forall₂ (Takes attributes) columns binds) :
      Updates layer catalog attributes
        (.ok (id, some ⟨updateText layer (columns.map (·.name)), binds ++ [.bigInt id]⟩))

/-! ### The text -/

variable {layer : Layer} {catalog : Catalog} {attributes : Attributes} {columns : List Field}
  {binds : List Bind} {id : Int}

/-- The pieces that set a column to a parameter. -/
def assignmentPieces (field : Field) (bind : Bind) : List Piece :=
  [.text (quoteName field.name ++ " = "), .bind bind]

theorem bindsOf_assignments (h : columns.length = binds.length) :
    (List.zipWith assignmentPieces columns binds).flatMap Statement.bindsOf = binds := by
  induction columns generalizing binds with
  | nil =>
      obtain rfl := List.length_eq_zero_iff.1 h.symm
      rfl
  | cons field columns ih =>
      cases binds with
      | nil => cases h
      | cons bind binds =>
          rw [List.zipWith_cons_cons, List.flatMap_cons, ih (Nat.succ.inj h)]
          rfl

/-- The statement that sets columns to parameters, in the row with an object id. -/
theorem ofPieces_update (h : columns.length = binds.length) :
    Statement.ofPieces (.text ("UPDATE " ++ quoteName layer.table ++ " SET ") ::
        Statement.between ", " (List.zipWith assignmentPieces columns binds) ++
          wherePieces layer id) =
      ⟨updateText layer (columns.map (·.name)), binds ++ [.bigInt id]⟩ := by
  have hone : ∀ item ∈ List.zipWith assignmentPieces columns binds,
      (Statement.bindsOf item).length = 1 := by
    intro item hitem
    obtain ⟨i, hi, rfl⟩ := List.mem_iff_getElem.1 hitem
    rw [List.getElem_zipWith]
    rfl
  have hplaces : ((List.zipWith assignmentPieces columns binds).mapIdx fun i item =>
        Statement.textFrom (0 + i) item) =
      (columns.map (·.name)).mapIdx fun i name => quoteName name ++ " = " ++ placeholder (i + 1) := by
    apply List.ext_getElem
    · simp [h]
    · intro i hi hi'
      simp [assignmentPieces, Statement.textFrom]
  rw [Statement.ofPieces_eq, List.cons_append, Statement.textFrom, Statement.bindsOf,
    Statement.textFrom_append, Statement.bindsOf_append, Statement.textFrom_between 0 ", " hone,
    hplaces, Statement.bindsOf_between, bindsOf_assignments h]
  simp [updateText, wherePieces, Statement.textFrom, Statement.bindsOf, String.append_assoc, h]

/-! ### The checks -/

/-- The attributes to change that are not for a column, in order. -/
def unknownChanges (layer : Layer) (catalog : Catalog) (attributes : Attributes) : List String :=
  ((changed layer attributes).map Prod.fst).filter fun name => !catalog.hasField name

theorem increasing_changed : ((changed layer attributes).map Prod.fst).Pairwise (· < ·) :=
  List.pairwise_map.2 (attributes.increasing.filter _)

theorem mem_changed {name : String} :
    name ∈ (changed layer attributes).map Prod.fst ↔ Changes layer attributes name := by
  rw [Changes, Dictionary.contains_iff_mem_keys]
  simp [changed, Dictionary.keys, and_assoc]

theorem mem_unknownChanges {name : String} : name ∈ unknownChanges layer catalog attributes ↔
    Changes layer attributes name ∧ name ∉ catalog.fields.map (·.name) := by
  rw [unknownChanges, List.mem_filter, mem_changed, ← Catalog.hasField_iff, Bool.not_eq_true',
    Bool.not_eq_true]

theorem changed_eq_nil :
    changed layer attributes = [] ↔ ∀ name, ¬Changes layer attributes name := by
  rw [← List.map_eq_nil_iff (f := Prod.fst), List.eq_nil_iff_forall_not_mem]
  simp only [mem_changed]

/-- A change is checked for the object id, then for unknown attributes, and then sets what there is
to set. -/
theorem updateStatement_eq (hid : Identifies layer attributes id) :
    updateStatement layer catalog attributes =
      if unknownChanges layer catalog attributes = [] then
        if changed layer attributes = [] then .ok (id, none)
        else ((changed layer attributes).mapM (assignment catalog)).map fun assignments =>
          (id, some (Statement.ofPieces (.text ("UPDATE " ++ quoteName layer.table ++ " SET ") ::
            Statement.between ", " assignments ++ wherePieces layer id)))
      else .error (.unknownAttributes (unknownChanges layer catalog attributes)) := by
  unfold updateStatement
  rw [objectIdOf_eq_ok_iff_identifies.2 hid]
  refine (ite_not_isEmpty _ _ _).trans ?_
  congr 1
  cases changed layer attributes with
  | nil => rfl
  | cons entry entries => cases (entry :: entries).mapM (assignment catalog) <;> rfl

/-! ### The columns -/

theorem exists_supplied (h : unknownChanges layer catalog attributes = []) :
    ∃ columns, Supplied layer catalog attributes columns := by
  have hknown : ∀ name ∈ (changed layer attributes).map Prod.fst,
      name ∈ catalog.fields.map (·.name) := by
    intro name hname
    by_contra hnone
    exact (List.eq_nil_iff_forall_not_mem.1 h) name
      (mem_unknownChanges.2 ⟨mem_changed.1 hname, hnone⟩)
  obtain ⟨columns, hcolumns, hfound⟩ := Catalog.exists_fields hknown
  exact ⟨columns, hcolumns ▸ increasing_changed, fun name => hcolumns ▸ mem_changed, hfound⟩

namespace Supplied

variable (h : Supplied layer catalog attributes columns)

include h

theorem map_name : (changed layer attributes).map Prod.fst = columns.map (·.name) :=
  Dictionary.eq_of_increasing increasing_changed h.increasing fun name =>
    mem_changed.trans (h.names name).symm

theorem unknownChanges_eq_nil : unknownChanges layer catalog attributes = [] := by
  rw [unknownChanges, h.map_name, List.filter_eq_nil_iff]
  intro name hname
  obtain ⟨field, hfield, rfl⟩ := List.mem_map.1 hname
  rw [Catalog.hasField, h.found field hfield]
  exact Bool.false_ne_true

theorem changed_ne_nil (hsome : columns ≠ []) : changed layer attributes ≠ [] := by
  intro hnil
  have hmap := h.map_name
  rw [hnil] at hmap
  exact hsome (List.map_eq_nil_iff.1 hmap.symm)

theorem contains : ∀ field ∈ columns, attributes.contains field.name = true :=
  fun field hfield => ((h.names field.name).1 (List.mem_map_of_mem hfield)).1

/-- The assignments are those of the columns, each to the parameter made of its attribute. -/
theorem mapM_assignment : (changed layer attributes).mapM (assignment catalog) =
    (bindAll attributes columns).map (List.zipWith assignmentPieces columns) := by
  have hentries : ∀ entry ∈ changed layer attributes, entry ∈ attributes.entries :=
    fun _ => List.mem_of_mem_filter
  rw [Dictionary.eq_map_find? .null hentries, h.map_name, List.map_map]
  have hfound := h.found
  -- Fewer columns are not those of the attributes any more, but each is still found by its name.
  clear h hentries
  induction columns with
  | nil => rfl
  | cons field columns ih =>
      obtain ⟨hfield, hcolumns⟩ := List.forall_mem_cons.1 hfound
      rw [bindAll] at ih ⊢
      rw [List.map_cons, List.mapM_cons, List.mapM_cons, ih hcolumns, Function.comp_apply,
        assignment, hfield]
      dsimp only
      cases bindValue field ((attributes.find? field.name).getD .null) with
      | error e => rfl
      | ok bind =>
          cases columns.mapM fun field =>
              bindValue field ((attributes.find? field.name).getD .null) with
          | error e => rfl
          | ok binds => rfl

end Supplied

/-! ### The outcome -/

theorem updateStatement_of_error {e : Error} (h : objectIdOf layer attributes = .error e) :
    updateStatement layer catalog attributes = .error e := by
  unfold updateStatement
  rw [h]
  rfl

/-- A change with a column to set that has its attributes is made of the parameters. -/
theorem updateStatement_of_supplied (hid : Identifies layer attributes id)
    (h : Supplied layer catalog attributes columns) (hsome : columns ≠ []) :
    updateStatement layer catalog attributes = (bindAll attributes columns).map fun binds =>
      (id, some (Statement.ofPieces (.text ("UPDATE " ++ quoteName layer.table ++ " SET ") ::
        Statement.between ", " (List.zipWith assignmentPieces columns binds) ++
          wherePieces layer id))) := by
  rw [updateStatement_eq hid, if_pos h.unknownChanges_eq_nil,
    if_neg (h.changed_ne_nil hsome), h.mapM_assignment]
  cases bindAll attributes columns <;> rfl

variable {result : Except Error (Int × Option Statement)}

theorem Updates.eq (h : Updates layer catalog attributes result) :
    updateStatement layer catalog attributes = result := by
  cases h with
  | anonymous hnone => exact updateStatement_of_error (objectIdOf_of_none hnone)
  | refused hvalue hnull hwhole =>
      apply updateStatement_of_error
      rw [objectIdOf_of_value hvalue hnull, hwhole, Option.elim_none]
  | unknown hid hsome hincreasing hnames =>
      -- The order leaves one list with these members.
      have heq : unknownChanges layer catalog attributes = _ :=
        Dictionary.eq_of_increasing (increasing_changed.filter _) hincreasing fun name =>
          mem_unknownChanges.trans (hnames name).symm
      rw [updateStatement_eq hid, heq, if_neg hsome]
  | nothing hid hnone =>
      have hunknown : unknownChanges layer catalog attributes = [] := by
        rw [List.eq_nil_iff_forall_not_mem]
        exact fun name hname => hnone name (mem_unknownChanges.1 hname).1
      rw [updateStatement_eq hid, if_pos hunknown, if_pos (changed_eq_nil.2 hnone)]
  | unfit hid hsupplied hunfit =>
      rw [updateStatement_of_supplied hid hsupplied hunfit.ne_nil, bindAll_eq_error hunfit]
      rfl
  | done hid hsupplied hsome htakes =>
      rw [updateStatement_of_supplied hid hsupplied hsome, bindAll_eq_ok htakes, Except.map,
        ofPieces_update htakes.length_eq]

/-- Something comes of every change. -/
theorem exists_updates (layer : Layer) (catalog : Catalog) (attributes : Attributes) :
    ∃ result, Updates layer catalog attributes result := by
  by_cases hanonymous : ∀ value, attributes.find? layer.objectIdField = some value → value = .null
  case pos => exact ⟨_, .anonymous hanonymous⟩
  simp only [not_forall, exists_prop] at hanonymous
  obtain ⟨value, hvalue, hnull⟩ := hanonymous
  cases hwhole : wholeValue? value with
  | none => exact ⟨_, .refused hvalue hnull hwhole⟩
  | some id =>
      have hid : Identifies layer attributes id := ⟨value, hvalue, hwhole⟩
      by_cases hunknown : unknownChanges layer catalog attributes = []
      case neg =>
        exact ⟨_, .unknown hid hunknown (increasing_changed.filter _) fun name =>
          mem_unknownChanges⟩
      by_cases hchanged : changed layer attributes = []
      case pos => exact ⟨_, .nothing hid (changed_eq_nil.1 hchanged)⟩
      obtain ⟨columns, hsupplied⟩ := exists_supplied hunknown
      have hsome : columns ≠ [] := by
        rintro rfl
        exact hchanged (List.map_eq_nil_iff.1 hsupplied.map_name)
      rcases takes_or_unfit hsupplied.contains with ⟨binds, htakes⟩ | ⟨fault, hunfit⟩
      · exact ⟨_, .done hid hsupplied hsome htakes⟩
      · exact ⟨_, .unfit hid hsupplied hunfit⟩

theorem updateStatement_eq_iff :
    updateStatement layer catalog attributes = result ↔
      Updates layer catalog attributes result := by
  constructor
  · rintro rfl
    obtain ⟨result, hresult⟩ := exists_updates layer catalog attributes
    rwa [hresult.eq]
  · exact Updates.eq

/-- An object id is missing exactly if it is absent or null. -/
theorem updateStatement_missing_iff :
    (∃ names, updateStatement layer catalog attributes = .error (.missingAttributes names)) ↔
      attributes.find? layer.objectIdField = none ∨
        attributes.find? layer.objectIdField = some .null := by
  simp only [updateStatement_eq_iff]
  constructor
  · rintro ⟨names, ⟨hnone⟩⟩
    cases hvalue : attributes.find? layer.objectIdField with
    | none => exact .inl rfl
    | some value => exact .inr (congrArg some (hnone value hvalue))
  · intro hnone
    refine ⟨_, .anonymous fun value hvalue => ?_⟩
    rw [hvalue] at hnone
    simpa using hnone

/-- A change of attributes fails without an object id, or else with one that is not a whole number,
or else with exactly the attributes beside it and the geometry that are not for a column, or else
with the fault of the first value that does not fit. If it does not fail, it sets exactly the columns
of these attributes in the row with the object id, each to the value of its own attribute, and it has
no statement exactly if there are none. -/
theorem updateStatement_sets_supplied (layer : Layer) (catalog : Catalog)
    (attributes : Attributes) :
    (∀ result, updateStatement layer catalog attributes = result ↔
      Updates layer catalog attributes result) ∧
    ((∃ names, updateStatement layer catalog attributes = .error (.missingAttributes names)) ↔
      attributes.find? layer.objectIdField = none ∨
        attributes.find? layer.objectIdField = some .null) ∧
    ∀ id update, updateStatement layer catalog attributes = .ok (id, update) →
      (update = none ↔ ∀ name, ¬Changes layer attributes name) := by
  refine ⟨fun result => updateStatement_eq_iff, updateStatement_missing_iff, ?_⟩
  intro id update hupdate
  cases updateStatement_eq_iff.1 hupdate with
  | nothing _ hnone => exact iff_of_true rfl hnone
  | @done _ columns _ _ hsupplied hsome _ =>
      obtain ⟨field, hfield⟩ := List.exists_mem_of_ne_nil columns hsome
      have hchanges := (hsupplied.names field.name).1 (List.mem_map_of_mem hfield)
      exact iff_of_false nofun fun hnone => hnone field.name hchanges

end Edit

end GeoLayers
