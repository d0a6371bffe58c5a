import GeoLayers.Proofs.Query.Join
import GeoLayers.Proofs.Query.Split

/-!
What a row of an answer splits into: the own columns of a row of the layer, and one related row for
every relation with selected columns, none where no row of its table stands in the answered row.
-/

namespace GeoLayers.Join

/-- The text that an object id is known by. -/
def idText : Json → String
  | .text s => s
  | value => value.compress

/-- The columns of a relation among the fields of an answer. -/
def selected (names : List String) (relation : Relation) : List String :=
  names.filterMap (Text.stripStart (relation.qualify ""))

/-- The attributes of a row of the layer: its columns among the fields of an answer. -/
def Parent.attributes (layer : Layer) (names : List String) (parent : Parent) : Attributes :=
  let own := names.filter fun name => !layer.relations.any (·.owns name)
  (Dictionary.ofList (own.map fun name => (name, Combination.value parent [] name))).erase
    geometryColumn

/-- The geometry of a row of the layer in an answer. -/
def Parent.geometry (names : List String) (withGeometry : Bool) (parent : Parent) :
    Except GeometryFault (Option (Geometry Float)) :=
  geometryIn (answerRow names withGeometry parent [])

/-- The selected columns of a related row. -/
def selectedColumns (names : List String) (relation : Relation) (row : TableRow) : Attributes :=
  .ofList ((selected names relation).map fun column => (column, row column))

/-- A related row of a feature: its selected columns, and the value of the feature that it is joined
on. -/
def relatedRow (names : List String) (attributes : Attributes) (relation : Relation)
    (row : TableRow) : Attributes :=
  (selectedColumns names relation row).insert relation.targetColumn
    ((attributes.find? relation.sourceColumn).getD .null)

/-- The related rows of a feature that one combination gives. -/
def relatedParts (layer : Layer) (names : List String) (attributes : Attributes)
    (combination : Combination) : List (String × Option Attributes) :=
  (layer.relations.filter fun relation => !(selected names relation).isEmpty).map fun relation =>
    (relation.title, (combination.row? relation.title).bind fun row =>
      relation.rowIn? (selectedColumns names relation row) attributes)

variable {layer : Layer} {names : List String} {withGeometry : Bool} {parent : Parent}
  {combination : Combination} {relation : Relation}

theorem mem_selected {column : String} :
    column ∈ selected names relation ↔ relation.qualify column ∈ names := by
  simp only [selected, List.mem_filterMap, Relation.stripStart_qualify]
  constructor
  · rintro ⟨_, hname, rfl⟩
    exact hname
  · exact fun hname => ⟨_, hname, rfl⟩

theorem find?_answerRow (name : String) :
    (answerRow names withGeometry parent combination).find? name =
      if withGeometry ∧ name = geometryColumn then some parent.shape
      else if name ∈ names then some (combination.value parent name) else none := by
  unfold answerRow
  cases withGeometry with
  | false => simp [Dictionary.find?_ofList_map]
  | true => simp [Dictionary.find?_insert, Dictionary.find?_ofList_map]

theorem find?_erase_answerRow (name : String) :
    ((answerRow names withGeometry parent combination).erase geometryColumn).find? name =
      if name = geometryColumn then none
      else if name ∈ names then some (combination.value parent name) else none := by
  rw [Dictionary.find?_erase, find?_answerRow]
  by_cases hname : name = geometryColumn <;> simp [hname]

theorem value_of_notMem {name : String} (h : '.' ∉ name.toList) :
    combination.value parent name = parent.columns name := by
  rw [Combination.value, Text.cutAt_of_notMem h]

theorem value_qualify (h : '.' ∉ relation.title.toList) (column : String) :
    combination.value parent (relation.qualify column) =
      ((combination.row? relation.title).map (· column)).getD .null := by
  rw [Combination.value, Relation.cutAt_qualify h]

theorem notMem_geometryColumn : '.' ∉ geometryColumn.toList := by decide

theorem geometryIn_answerRow :
    geometryIn (answerRow names withGeometry parent combination) =
      parent.geometry names withGeometry := by
  simp only [Parent.geometry, geometryIn, find?_answerRow, value_of_notMem notMem_geometryColumn]

/-- The columns of a relation in a row of the answer are those of the row of its table, and null
without one. -/
theorem columnsIn_answerRow (hplain : '.' ∉ relation.title.toList) :
    relation.columnsIn ((answerRow names withGeometry parent combination).erase geometryColumn) =
      selectedColumns names relation
        fun column => ((combination.row? relation.title).map (· column)).getD .null := by
  apply Dictionary.ext_find?
  intro column
  rw [Relation.find?_columnsIn, find?_erase_answerRow,
    if_neg (Relation.qualify_ne_of_notMem notMem_geometryColumn column), value_qualify hplain,
    selectedColumns, Dictionary.find?_ofList_map]
  simp only [mem_selected]

theorem isEmpty_selectedColumns (row : TableRow) :
    (selectedColumns names relation row).isEmpty = (selected names relation).isEmpty := by
  rw [Bool.eq_iff_iff, Dictionary.isEmpty_iff_find?]
  simp only [selectedColumns, Dictionary.find?_ofList_map, List.isEmpty_iff,
    List.eq_nil_iff_forall_not_mem]
  constructor
  · intro hnone column hmem
    have hcolumn := hnone column
    rw [if_pos hmem] at hcolumn
    cases hcolumn
  · intro hnone column
    exact if_neg (hnone column)

/-- A row of nulls is no related row. -/
theorem rowIn?_of_null {attributes : Attributes} :
    relation.rowIn? (selectedColumns names relation fun _ => .null) attributes = none := by
  apply if_pos
  rw [List.all_eq_true]
  rintro ⟨column, value⟩ hentry
  rw [Dictionary.mem_entries, selectedColumns, Dictionary.find?_ofList_map] at hentry
  split at hentry
  · obtain rfl := Option.some.inj hentry
    rfl
  · cases hentry

/-- A row with a selected value is a related row. -/
theorem rowIn?_of_value {attributes : Attributes} {row : TableRow}
    (h : ∃ column ∈ selected names relation, (row column).isNull = false) :
    relation.rowIn? (selectedColumns names relation row) attributes =
      some (relatedRow names attributes relation row) := by
  obtain ⟨column, hcolumn, hvalue⟩ := h
  apply if_neg
  rw [List.all_eq_true]
  intro hnull
  have hentry : (column, row column) ∈ (selectedColumns names relation row).entries := by
    rw [Dictionary.mem_entries, selectedColumns, Dictionary.find?_ofList_map, if_pos hcolumn]
  rw [hnull _ hentry] at hvalue
  cases hvalue

theorem find?_attributes {name : String} (hplain : '.' ∉ name.toList) (hname : name ∈ names)
    (hother : name ≠ geometryColumn) :
    (parent.attributes layer names).find? name = some (parent.columns name) := by
  have hown : name ∈ names.filter fun name => !layer.relations.any (·.owns name) := by
    rw [List.mem_filter]
    refine ⟨hname, ?_⟩
    simp [Relation.owns_of_notMem hplain]
  rw [Parent.attributes, Dictionary.find?_erase, if_neg hother, Dictionary.find?_ofList_map,
    if_pos hown, value_of_notMem hplain]

section Split

variable (hlayer : layer.faults = [])
  (htitles : ∀ title ∈ combination.map Prod.fst, title ∈ layer.relations.map Relation.title)

include htitles

/-- The own columns of a row of the answer are those of the row of the layer. -/
theorem attributes_ofRow_answerRow :
    (SplitRow.ofRow layer
      ((answerRow names withGeometry parent combination).erase geometryColumn)).attributes =
      parent.attributes layer names := by
  apply Dictionary.ext_find?
  intro name
  rw [find?_attributes_ofRow, find?_erase_answerRow, Parent.attributes,
    Dictionary.find?_erase, Dictionary.find?_ofList_map]
  simp only [List.mem_filter]
  by_cases hown : layer.relations.any (·.owns name)
  · simp [hown]
  · -- A name with another title than those of the layer has no value on either side.
    have hvalue : combination.value parent name = Combination.value parent [] name := by
      unfold Combination.value
      split
      case h_2 => rfl
      case h_1 title column hcut =>
        have htitle : title ∉ combination.map Prod.fst := by
          intro hmem
          obtain ⟨relation, hrelation, rfl⟩ := List.mem_map.1 (htitles title hmem)
          exact hown (List.any_eq_true.2 ⟨relation, hrelation, Relation.owns_of_cutAt hcut⟩)
        rw [Combination.row?, Dictionary.lookup_of_notMem htitle]
        rfl
    simp [hown, hvalue]

include hlayer in
/-- Each relation with selected columns has one related row in a row of the answer. -/
theorem related_ofRow_answerRow :
    (SplitRow.ofRow layer
      ((answerRow names withGeometry parent combination).erase geometryColumn)).related =
      relatedParts layer names (parent.attributes layer names) combination := by
  have hin : ∀ relation ∈ layer.relations,
      relation.isIn ((answerRow names withGeometry parent combination).erase geometryColumn) =
        !(selected names relation).isEmpty := by
    intro relation hrelation
    rw [Relation.isIn, columnsIn_answerRow (layer.title_plain hlayer hrelation),
      isEmpty_selectedColumns]
  rw [related_ofRow (fun _ hmem => layer.title_plain hlayer hmem) (layer.titles_nodup hlayer),
    relatedParts, List.filter_congr hin]
  apply List.map_congr_left
  intro relation hmem
  have hrelation := (List.mem_filter.1 hmem).1
  have hsource : (relation.restIn layer.relations
      ((answerRow names withGeometry parent combination).erase geometryColumn)).find?
        relation.sourceColumn = (parent.attributes layer names).find? relation.sourceColumn := by
    have hplain := layer.sourceColumn_plain hlayer hrelation
    rw [Relation.find?_restIn_of_notMem hplain]
    have hfound := find?_attributes_ofRow layer
      ((answerRow names withGeometry parent combination).erase geometryColumn)
      relation.sourceColumn
    rw [attributes_ofRow_answerRow htitles,
      if_neg (by simp [Relation.owns_of_notMem hplain])] at hfound
    exact hfound.symm
  rw [Relation.part, columnsIn_answerRow (layer.title_plain hlayer hrelation),
    Relation.rowIn?_congr hsource]
  congr 1
  cases combination.row? relation.title with
  | none => exact rowIn?_of_null
  | some row => rfl

end Split

theorem nodup_relatedParts (hlayer : layer.faults = []) (attributes : Attributes) :
    ((relatedParts layer names attributes combination).map Prod.fst).Nodup := by
  have htitles : (relatedParts layer names attributes combination).map Prod.fst =
      (layer.relations.filter fun relation => !(selected names relation).isEmpty).map
        Relation.title := by
    rw [relatedParts, List.map_map]
    rfl
  rw [htitles]
  exact (layer.titles_nodup hlayer).sublist (List.filter_sublist.map Relation.title)

/-- What is found under the title of a relation in the related rows of a combination. -/
theorem lookup_relatedParts (hlayer : layer.faults = []) {attributes : Attributes}
    (hmem : relation ∈ layer.relations) (hselected : selected names relation ≠ []) :
    (relatedParts layer names attributes combination).lookup relation.title =
      some ((combination.row? relation.title).bind fun row =>
        relation.rowIn? (selectedColumns names relation row) attributes) := by
  rw [Dictionary.lookup_eq_some_of_nodup (nodup_relatedParts hlayer attributes)]
  apply List.mem_map_of_mem
  rw [List.mem_filter]
  exact ⟨hmem, by simpa using hselected⟩

theorem lookup_relatedParts_of_unselected {attributes : Attributes} {title : String}
    (h : ∀ relation ∈ layer.relations, relation.title = title → selected names relation = []) :
    (relatedParts layer names attributes combination).lookup title = none := by
  apply Dictionary.lookup_of_notMem
  rw [relatedParts, List.map_map]
  intro hmem
  obtain ⟨relation, hrelation, htitle⟩ := List.mem_map.1 hmem
  obtain ⟨hmem, hselected⟩ := List.mem_filter.1 hrelation
  rw [h relation hmem htitle] at hselected
  cases hselected

/-- The object id of a row of the layer in an answer, as a text. -/
def Parent.key (layer : Layer) (parent : Parent) : String :=
  idText (parent.columns layer.objectIdField)

theorem identity_attributes (hlayer : layer.faults = []) (hname : layer.objectIdField ∈ names)
    (hother : layer.objectIdField ≠ geometryColumn) (place : Nat) :
    identity layer (parent.attributes layer names) place = parent.key layer := by
  have hplain : '.' ∉ layer.objectIdField.toList :=
    notMem_of_isPlainName (layer.objectIdField_plain hlayer) (by decide)
  rw [identity, find?_attributes hplain hname hother, Parent.key]
  cases parent.columns layer.objectIdField <;> rfl

end GeoLayers.Join
