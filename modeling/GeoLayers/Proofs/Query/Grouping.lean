import GeoLayers.Proofs.Query.Distinct

/-!
The features of rows as groups of rows. Rows with one object id are one group, in the order of their
first rows, and a group gives one feature: its attributes and its geometry are those of the first row,
its related rows those of all rows, in their order. Rows of a layer whose object id is not among the
attributes, because it is called like the geometry or like a column of a relation, are groups of their
own.
-/

namespace GeoLayers

namespace FeatureList

variable {features : FeatureList} {key : String}

/-- A row of a known key changes its feature and no other one. -/
theorem add_of_mem (hnodup : (features.map Prod.fst).Nodup) (h : key ∈ features.map Prod.fst)
    (feature : Feature) (related : List (String × Option Attributes)) :
    add features key feature related =
      features.map fun entry =>
        (entry.1, if entry.1 = key then entry.2.addRelated related else entry.2) := by
  induction features with
  | nil => cases h
  | cons entry features ih =>
      obtain ⟨k, known⟩ := entry
      rw [List.map_cons, List.nodup_cons] at hnodup
      rw [add, List.map_cons]
      by_cases hk : k = key
      · have hrest : ∀ entry ∈ features,
            (entry.1, if entry.1 = key then entry.2.addRelated related else entry.2) = entry := by
          intro entry hentry
          rw [if_neg fun heq => hnodup.1 (List.mem_map.2 ⟨entry, hentry, heq.trans hk.symm⟩)]
        rw [if_pos hk, if_pos hk, List.map_congr_left hrest, List.map_id']
      · rw [if_neg hk, if_neg hk, ih hnodup.2]
        exact (List.mem_cons.1 h).resolve_left (Ne.symm hk)

end FeatureList

namespace Relation

/-- Whether a row has a value in a column of a relation. -/
def hasValueIn (relation : Relation) (row : Attributes) : Bool :=
  (relation.columnsIn row).entries.any fun entry => !entry.2.isNull

theorem isIn_of_hasValueIn {relation : Relation} {row : Attributes}
    (h : relation.hasValueIn row = true) : relation.isIn row = true := by
  rw [isIn, Dictionary.isEmpty]
  rw [hasValueIn] at h
  cases hentries : (relation.columnsIn row).entries with
  | nil => rw [hentries] at h; cases h
  | cons entry entries => rfl

end Relation

namespace Layer

/-- The attributes of a row: what is neither its geometry nor a column of a relation. -/
def ownColumns (layer : Layer) (row : Attributes) : Attributes :=
  row.filterKeys fun name => name != geometryColumn && !layer.relations.any (·.owns name)

/-- The value that the related row in a row is joined on. It is null if the row has none, and where
it is not looked for among the attributes: as the geometry, or as a column of the relation itself or
of one before it. -/
def joinValue (layer : Layer) (relation : Relation) (row : Attributes) : Json :=
  let taken := layer.relations.takeWhile (·.title != relation.title) ++ [relation]
  if relation.sourceColumn = geometryColumn ∨ taken.any (·.owns relation.sourceColumn) then .null
  else (row.find? relation.sourceColumn).getD .null

/-- The related row in a row: the columns of the relation by their own names, and the value that it
is joined on. -/
def relatedRow (layer : Layer) (relation : Relation) (row : Attributes) : Attributes :=
  (relation.columnsIn row).insert relation.targetColumn (layer.joinValue relation row)

/-- The rows with an object id. -/
def rowsOf (layer : Layer) (rows : List Attributes) (id : String) : List Attributes :=
  rows.filter fun row => objectIdText? layer row == some id

/-- The rows of each feature. -/
def groups (layer : Layer) (rows : List Attributes) : List (List Attributes) :=
  if layer.keepsObjectId then
    (firstOccurrences (rows.filterMap (objectIdText? layer))).map (layer.rowsOf rows)
  else rows.map fun row => [row]

end Layer

/-- Related rows that are those of a group of rows. A title is there if one of the rows has a column
of the relation, also where all such columns are null. -/
structure RelatedOf (layer : Layer) (group : List Attributes)
    (related : Dictionary (List Attributes)) : Prop where
  rows : ∀ relation ∈ layer.relations, related.find? relation.title =
    if group.any (relation.isIn ·) then
      some ((group.filter (relation.hasValueIn ·)).map (layer.relatedRow relation))
    else none
  others : ∀ title ∉ layer.relations.map Relation.title, related.find? title = none

/-- A feature that stands for a group of rows. -/
structure FeatureOf (layer : Layer) (group : List Attributes) (feature : Feature) : Prop where
  first : ∃ row, group.head? = some row ∧ feature.attributes = layer.ownColumns row ∧
    geometryIn row = .ok feature.geometry
  related : RelatedOf layer group feature.related

variable {layer : Layer} {row : Attributes} {rows group : List Attributes} {relation : Relation}

theorem columnsIn_erase_geometryColumn (relation : Relation) (row : Attributes) :
    relation.columnsIn (row.erase geometryColumn) = relation.columnsIn row := by
  apply Dictionary.ext_find?
  intro column
  rw [Relation.find?_columnsIn, Relation.find?_columnsIn, Dictionary.find?_erase,
    if_neg (Relation.qualify_ne_of_notMem Join.notMem_geometryColumn column)]

theorem attributes_ofRow (layer : Layer) (row : Attributes) :
    (SplitRow.ofRow layer (row.erase geometryColumn)).attributes = layer.ownColumns row := by
  apply Dictionary.ext_find?
  intro name
  rw [find?_attributes_ofRow, Dictionary.find?_erase, Layer.ownColumns, Dictionary.find?_filterKeys]
  by_cases howned : layer.relations.any (·.owns name) = true
  · simp [howned]
  · by_cases hgeometry : name = geometryColumn <;> simp [howned, hgeometry]

theorem find?_sourceColumn_restIn (layer : Layer) (relation : Relation) (row : Attributes) :
    ((relation.restIn layer.relations (row.erase geometryColumn)).find?
      relation.sourceColumn).getD .null = layer.joinValue relation row := by
  rw [Relation.restIn, Dictionary.find?_filterKeys, Dictionary.find?_erase, Layer.joinValue]
  by_cases hgeometry : relation.sourceColumn = geometryColumn
  · simp [hgeometry]
  · simp only [hgeometry, false_or, if_false]
    cases (layer.relations.takeWhile (·.title != relation.title) ++ [relation]).any
      (·.owns relation.sourceColumn) <;> rfl

theorem filterMap_objectIdText?_append {id : String} (hid : objectIdText? layer row = some id) :
    (rows ++ [row]).filterMap (objectIdText? layer) =
      rows.filterMap (objectIdText? layer) ++ [id] := by
  simp [hid]

theorem Layer.rowsOf_append {id : String} (hid : objectIdText? layer row = some id) (key : String) :
    layer.rowsOf (rows ++ [row]) key =
      layer.rowsOf rows key ++ if id = key then [row] else [] := by
  by_cases hkey : id = key <;> simp [rowsOf, hid, hkey]

theorem Layer.rowsOf_of_notMem {id : String} (h : id ∉ rows.filterMap (objectIdText? layer)) :
    layer.rowsOf rows id = [] := by
  rw [rowsOf, List.filter_eq_nil_iff]
  intro row hmem heq
  exact h (List.mem_filterMap.2 ⟨row, hmem, eq_of_beq heq⟩)

/-- The related row that is taken out of a row, if the relation has a value in it. -/
theorem part_eq (layer : Layer) (relation : Relation) (row : Attributes) :
    relation.part layer.relations (row.erase geometryColumn) =
      (relation.title,
        if relation.hasValueIn row then some (layer.relatedRow relation row) else none) := by
  rw [Relation.part, columnsIn_erase_geometryColumn, Relation.rowIn?, find?_sourceColumn_restIn,
    Relation.hasValueIn, List.any_eq_not_all_not]
  simp only [Bool.not_not]
  cases (relation.columnsIn row).entries.all fun entry => entry.2.isNull <;> rfl

section Titles

variable (hplain : ∀ relation ∈ layer.relations, '.' ∉ relation.title.toList)
  (hnodup : (layer.relations.map Relation.title).Nodup)

include hplain hnodup

theorem related_ofRow_eq (row : Attributes) :
    (SplitRow.ofRow layer (row.erase geometryColumn)).related =
      (layer.relations.filter (·.isIn row)).map fun relation => (relation.title,
        if relation.hasValueIn row then some (layer.relatedRow relation row) else none) := by
  have hin : ∀ relation ∈ layer.relations,
      relation.isIn (row.erase geometryColumn) = relation.isIn row := by
    intro relation _
    rw [Relation.isIn, Relation.isIn, columnsIn_erase_geometryColumn]
  rw [related_ofRow hplain hnodup, List.filter_congr hin]
  exact List.map_congr_left fun relation _ => part_eq layer relation row

theorem nodup_related_ofRow (row : Attributes) :
    ((SplitRow.ofRow layer (row.erase geometryColumn)).related.map Prod.fst).Nodup := by
  rw [related_ofRow_eq hplain hnodup, List.map_map]
  exact hnodup.sublist (List.filter_sublist.map Relation.title)

/-- What is found under the title of a relation in what is taken out of a row. -/
theorem lookup_related_ofRow (hmem : relation ∈ layer.relations) (row : Attributes) :
    (SplitRow.ofRow layer (row.erase geometryColumn)).related.lookup relation.title =
      if relation.isIn row then
        some (if relation.hasValueIn row then some (layer.relatedRow relation row) else none)
      else none := by
  have hfresh := nodup_related_ofRow hplain hnodup row
  rw [related_ofRow_eq hplain hnodup] at hfresh ⊢
  split
  case isTrue hin =>
    rw [Dictionary.lookup_eq_some_of_nodup hfresh]
    exact List.mem_map.2 ⟨relation, List.mem_filter.2 ⟨hmem, hin⟩, rfl⟩
  case isFalse hnot =>
    apply Dictionary.lookup_of_notMem
    rw [List.map_map]
    intro hfound
    obtain ⟨other, hother, htitle⟩ := List.mem_map.1 hfound
    obtain ⟨hother, hin⟩ := List.mem_filter.1 hother
    obtain rfl := List.inj_on_of_nodup_map hnodup hother hmem htitle
    exact hnot hin

theorem lookup_related_ofRow_other {title : String}
    (htitle : title ∉ layer.relations.map Relation.title) (row : Attributes) :
    (SplitRow.ofRow layer (row.erase geometryColumn)).related.lookup title = none := by
  apply Dictionary.lookup_of_notMem
  rw [related_ofRow_eq hplain hnodup, List.map_map]
  exact fun hmem => htitle ((List.filter_sublist.map Relation.title).subset hmem)

/-- One more row adds its related rows. -/
theorem RelatedOf.append {feature : Feature} (h : RelatedOf layer group feature.related)
    (row : Attributes) :
    RelatedOf layer (group ++ [row]) (feature.addRelated (SplitRow.ofRow layer
      (row.erase geometryColumn)).related).related where
  rows relation hmem := by
    have hknown : (feature.related.find? relation.title).getD [] =
        (group.filter (relation.hasValueIn ·)).map (layer.relatedRow relation) := by
      rw [h.rows relation hmem]
      split
      case isTrue => rfl
      case isFalse hnone =>
        have hempty : group.filter (relation.hasValueIn ·) = [] := by
          rw [List.filter_eq_nil_iff]
          intro other hother hvalue
          exact hnone (List.any_eq_true.2 ⟨other, hother, Relation.isIn_of_hasValueIn hvalue⟩)
        rw [hempty]
        rfl
    rw [Feature.find?_addRelated (nodup_related_ofRow hplain hnodup row),
      lookup_related_ofRow hplain hnodup hmem]
    by_cases hin : relation.isIn row = true
    · simp only [hin, if_true, hknown]
      cases hvalue : relation.hasValueIn row <;> simp [hin, hvalue]
    · have hvalue : relation.hasValueIn row = false :=
        Bool.eq_false_iff.2 fun hvalue => hin (Relation.isIn_of_hasValueIn hvalue)
      simp [hin, hvalue, h.rows relation hmem]
  others title htitle := by
    rw [Feature.find?_addRelated (nodup_related_ofRow hplain hnodup row),
      lookup_related_ofRow_other hplain hnodup htitle]
    exact h.others title htitle

theorem FeatureOf.append {feature : Feature} (h : FeatureOf layer group feature)
    (row : Attributes) :
    FeatureOf layer (group ++ [row])
      (feature.addRelated (SplitRow.ofRow layer (row.erase geometryColumn)).related) where
  first := by
    obtain ⟨first, hfirst, hattributes, hgeometry⟩ := h.first
    refine ⟨first, ?_, ?_, ?_⟩
    · rw [List.head?_append, hfirst]
      rfl
    · rw [Feature.attributes_addRelated, hattributes]
    · rw [Feature.geometry_addRelated, hgeometry]
  related := h.related.append hplain hnodup row

/-- The feature of a single row. -/
theorem featureOf_rowFeature {geometry : Option (Geometry Float)}
    (hgeometry : geometryIn row = .ok geometry) :
    FeatureOf layer [row] (rowFeature layer row geometry) where
  first := by
    refine ⟨row, rfl, ?_, ?_⟩
    · rw [rowFeature, Feature.attributes_addRelated, attributes_ofRow]
    · rw [rowFeature, Feature.geometry_addRelated, hgeometry]
  related := by
    let feature : Feature :=
      ⟨(SplitRow.ofRow layer (row.erase geometryColumn)).attributes, geometry, .empty⟩
    have hnone : RelatedOf layer [] feature.related := ⟨fun _ _ => rfl, fun _ _ => rfl⟩
    exact hnone.append hplain hnodup row

/-- The features of the rows that were taken up: one for each object id, for its rows. -/
structure Grouped (layer : Layer) (rows : List Attributes) (features : FeatureList) : Prop where
  ids : features.map Prod.fst = firstOccurrences (rows.filterMap (objectIdText? layer))
  feature : ∀ entry ∈ features, FeatureOf layer (layer.rowsOf rows entry.1) entry.2

omit hplain hnodup in
theorem Grouped.mem_ids_iff {features : FeatureList} (h : Grouped layer rows features) {id : String} :
    id ∈ features.map Prod.fst ↔ id ∈ rows.filterMap (objectIdText? layer) := by
  rw [h.ids, mem_firstOccurrences]

section Row

variable {features : FeatureList} {id : String} {geometry : Option (Geometry Float)}

omit hplain hnodup in
/-- A row with an object id among the attributes goes to the feature of this id. -/
theorem addRow_of_keeps (hkeeps : layer.keepsObjectId = true)
    (hid : objectIdText? layer row = some id) (hgeometry : geometryIn row = .ok geometry) :
    let split := SplitRow.ofRow layer (row.erase geometryColumn)
    FeatureList.addRow layer features row =
      .ok (features.add id ⟨split.attributes, geometry, .empty⟩ split.related) := by
  intro split
  have hidentity : identity layer split.attributes features.length = id :=
    rowIdentity_of_keeps hkeeps hid features.length
  rw [FeatureList.addRow, hgeometry]
  change Except.ok (features.add (identity layer split.attributes features.length) _ _) = _
  rw [hidentity]

/-- A row of a known object id joins its group. -/
theorem Grouped.add_known (h : Grouped layer rows features)
    (hid : objectIdText? layer row = some id) (hknown : id ∈ features.map Prod.fst)
    (feature : Feature) :
    Grouped layer (rows ++ [row]) (features.add id feature
      (SplitRow.ofRow layer (row.erase geometryColumn)).related) := by
  have hfresh : (features.map Prod.fst).Nodup := h.ids ▸ nodup_firstOccurrences _
  rw [FeatureList.add_of_mem hfresh hknown]
  constructor
  · rw [filterMap_objectIdText?_append hid, firstOccurrences_concat,
      if_pos (h.mem_ids_iff.1 hknown), ← h.ids, List.map_map]
    rfl
  · intro entry hentry
    obtain ⟨known, hfeature, rfl⟩ := List.mem_map.1 hentry
    rw [Layer.rowsOf_append hid]
    by_cases hkey : known.1 = id
    · rw [if_pos hkey, if_pos hkey.symm]
      exact (h.feature known hfeature).append hplain hnodup row
    · rw [if_neg hkey, if_neg (Ne.symm hkey), List.append_nil]
      exact h.feature known hfeature

/-- A row of a new object id is a new group. -/
theorem Grouped.add_new (h : Grouped layer rows features)
    (hid : objectIdText? layer row = some id) (hnew : id ∉ features.map Prod.fst)
    (hgeometry : geometryIn row = .ok geometry) :
    Grouped layer (rows ++ [row]) (features ++ [(id, rowFeature layer row geometry)]) := by
  have hmem : id ∉ rows.filterMap (objectIdText? layer) := fun hmem => hnew (h.mem_ids_iff.2 hmem)
  constructor
  · rw [filterMap_objectIdText?_append hid, firstOccurrences_concat, if_neg hmem, ← h.ids,
      List.map_append]
    rfl
  · intro entry hentry
    rw [Layer.rowsOf_append hid]
    rcases List.mem_append.1 hentry with hold | hlast
    · have hkey : id ≠ entry.1 := by
        rintro rfl
        exact hnew (List.mem_map_of_mem hold)
      rw [if_neg hkey, List.append_nil]
      exact h.feature entry hold
    · obtain rfl := List.mem_singleton.1 hlast
      rw [if_pos rfl, Layer.rowsOf_of_notMem hmem]
      exact featureOf_rowFeature hplain hnodup hgeometry

/-- Taking up a row keeps the features grouped. -/
theorem Grouped.addRow (hkeeps : layer.keepsObjectId = true) (h : Grouped layer rows features)
    (hid : objectIdText? layer row = some id) (hgeometry : geometryIn row = .ok geometry) :
    ∃ more, FeatureList.addRow layer features row = .ok more ∧ Grouped layer (rows ++ [row]) more := by
  refine ⟨_, addRow_of_keeps hkeeps hid hgeometry, ?_⟩
  by_cases hknown : id ∈ features.map Prod.fst
  · exact h.add_known hplain hnodup hid hknown _
  · rw [FeatureList.add_fresh hknown]
    exact h.add_new hplain hnodup hid hknown hgeometry

end Row

theorem Grouped.foldlM_addRow (hkeeps : layer.keepsObjectId = true) {taken : List Attributes}
    {features : FeatureList} (h : Grouped layer taken features)
    (hids : ∀ row ∈ rows, ∃ id, objectIdText? layer row = some id)
    (hreadable : ∀ row ∈ rows, ∃ geometry, geometryIn row = .ok geometry) :
    ∃ more, rows.foldlM (FeatureList.addRow layer) features = .ok more ∧
      Grouped layer (taken ++ rows) more := by
  induction rows generalizing taken features with
  | nil => exact ⟨features, rfl, by rwa [List.append_nil]⟩
  | cons row rows ih =>
      rw [List.forall_mem_cons] at hids hreadable
      obtain ⟨⟨id, hid⟩, hids⟩ := hids
      obtain ⟨⟨geometry, hgeometry⟩, hreadable⟩ := hreadable
      obtain ⟨next, hnext, hgrouped⟩ := h.addRow hplain hnodup hkeeps hid hgeometry
      obtain ⟨more, hmore, hrest⟩ := ih hgrouped hids hreadable
      refine ⟨more, ?_, by rwa [List.append_assoc] at hrest⟩
      rw [List.foldlM_cons, hnext]
      exact hmore

theorem assemble_of_keeps (hkeeps : layer.keepsObjectId = true)
    (hids : ∀ row ∈ rows, ∃ id, objectIdText? layer row = some id)
    (hreadable : ∀ row ∈ rows, ∃ geometry, geometryIn row = .ok geometry) :
    ∃ features, assemble layer rows = .ok features ∧
      List.Forall₂ (FeatureOf layer) (layer.groups rows) features := by
  have hnone : Grouped layer [] [] := ⟨rfl, fun _ hmem => absurd hmem List.not_mem_nil⟩
  obtain ⟨features, hfeatures, hgrouped⟩ :=
    hnone.foldlM_addRow hplain hnodup hkeeps hids hreadable
  refine ⟨features.map Prod.snd, assemble_of_foldlM hfeatures, ?_⟩
  rw [List.nil_append] at hgrouped
  rw [Layer.groups, if_pos hkeeps, ← hgrouped.ids, List.map_map, List.forall₂_map_left_iff,
    List.forall₂_map_right_iff, List.forall₂_same]
  exact hgrouped.feature

theorem assemble_of_not_keeps (hkeeps : layer.keepsObjectId = false)
    (hreadable : ∀ row ∈ rows, ∃ geometry, geometryIn row = .ok geometry) :
    ∃ features, assemble layer rows = .ok features ∧
      List.Forall₂ (FeatureOf layer) (layer.groups rows) features := by
  obtain ⟨features, hfold, hfeatures⟩ := foldlM_addRow_distinct [] hreadable
    (by simpa using nodup_rowIdentity_of_not_keeps hkeeps rows)
  refine ⟨features.map Prod.snd, assemble_of_foldlM hfold, ?_⟩
  rw [Layer.groups, if_neg (by simp [hkeeps]), List.forall₂_map_left_iff]
  apply hfeatures.imp
  rintro row _ ⟨geometry, hgeometry, rfl⟩
  exact featureOf_rowFeature hplain hnodup hgeometry

end Titles

theorem geometryIn_eq_error {fault : GeometryFault} :
    geometryIn row = .error fault ↔ ∃ text, row.find? geometryColumn = some (.text text) ∧
      (Shape.ofText text : Except GeometryFault (Shape Float)) = .error fault := by
  unfold geometryIn
  split
  case h_1 text hfound =>
    rw [hfound]
    cases hread : (Shape.ofText text : Except GeometryFault (Shape Float)) with
    | error other => simp [Except.map, hread]
    | ok shape => simp [Except.map, hread]
  case h_2 hother =>
    constructor
    · nofun
    · rintro ⟨text, hfound, -⟩
      exact absurd hfound (hother text)

/-- A geometry that cannot be read fails all rows. -/
theorem foldlM_addRow_error (layer : Layer) {fault : GeometryFault} (hmem : row ∈ rows)
    (hfault : geometryIn row = .error fault) (features : FeatureList) :
    ∃ error, rows.foldlM (FeatureList.addRow layer) features = .error error := by
  induction rows generalizing features with
  | nil => cases hmem
  | cons first rows ih =>
      rw [List.foldlM_cons]
      rcases List.mem_cons.1 hmem with rfl | hlater
      · rw [FeatureList.addRow, hfault]
        exact ⟨.geometry fault, rfl⟩
      · cases FeatureList.addRow layer features first with
        | error error => exact ⟨error, rfl⟩
        | ok next => exact ih hlater next

/-- Rows become features exactly if all their geometries can be read, and then there is one feature
for each group of rows, in the order of the first rows. -/
theorem assemble_groups (hplain : ∀ relation ∈ layer.relations, '.' ∉ relation.title.toList)
    (hnodup : (layer.relations.map Relation.title).Nodup)
    (hids : ∀ row ∈ rows, row.contains layer.objectIdField = true) :
    ((∃ error, assemble layer rows = .error error) ↔
      ∃ row ∈ rows, ∃ text fault, row.find? geometryColumn = some (.text text) ∧
        (Shape.ofText text : Except GeometryFault (Shape Float)) = .error fault) ∧
    ∀ features, assemble layer rows = .ok features →
      List.Forall₂ (FeatureOf layer) (layer.groups rows) features := by
  by_cases hunreadable : ∃ row ∈ rows, ∃ fault, geometryIn row = .error fault
  · obtain ⟨row, hmem, fault, hfault⟩ := hunreadable
    obtain ⟨error, herror⟩ := foldlM_addRow_error layer hmem hfault []
    have hassemble : assemble layer rows = .error error := by
      rw [assemble, herror]
      rfl
    obtain ⟨text, htext⟩ := geometryIn_eq_error.1 hfault
    rw [hassemble]
    refine ⟨⟨fun _ => ⟨row, hmem, text, fault, htext⟩, fun _ => ⟨error, rfl⟩⟩, ?_⟩
    intro found hfound
    cases hfound
  · have hreadable : ∀ row ∈ rows, ∃ geometry, geometryIn row = .ok geometry := by
      intro row hmem
      cases hgeometry : geometryIn row with
      | error fault => exact absurd ⟨row, hmem, fault, hgeometry⟩ hunreadable
      | ok geometry => exact ⟨geometry, rfl⟩
    have htexts : ∀ row ∈ rows, ∃ id, objectIdText? layer row = some id := by
      intro row hmem
      obtain ⟨value, hvalue⟩ := Option.isSome_iff_exists.1 (hids row hmem)
      exact ⟨Join.idText value, by rw [objectIdText?, hvalue]; rfl⟩
    obtain ⟨features, hfeatures, hgroups⟩ : ∃ features, assemble layer rows = .ok features ∧
        List.Forall₂ (FeatureOf layer) (layer.groups rows) features := by
      cases hkeeps : layer.keepsObjectId with
      | true => exact assemble_of_keeps hplain hnodup hkeeps htexts hreadable
      | false => exact assemble_of_not_keeps hplain hnodup hkeeps hreadable
    rw [hfeatures]
    refine ⟨⟨?_, ?_⟩, fun found hfound => Except.ok.inj hfound ▸ hgroups⟩
    · rintro ⟨error, herror⟩
      cases herror
    · rintro ⟨row, hmem, text, fault, htext⟩
      exact absurd ⟨row, hmem, fault, geometryIn_eq_error.2 ⟨text, htext⟩⟩ hunreadable

/-- Two rows of one well, with a row of another well between them, whose sample is missing. -/
def interleavedWells : List Attributes :=
  [[("db_id", .integer 7), ("site_id", .integer 3), ("samples.ph", .integer 65)],
    [("db_id", .integer 8), ("site_id", .null), ("samples.ph", .null)],
    [("db_id", .text "7"), ("site_id", .integer 3), ("samples.ph", .integer 71)]].map
      Dictionary.ofList

theorem assemble_groups_wells :
    (∀ relation ∈ Join.wells.relations, '.' ∉ relation.title.toList) ∧
      (Join.wells.relations.map Relation.title).Nodup ∧
      (∀ row ∈ interleavedWells, row.contains Join.wells.objectIdField = true) ∧
      (Join.wells.groups interleavedWells).map List.length = [2, 1] ∧
      (assemble Join.wells interleavedWells).isOk = true ∧
      ((∃ error, assemble Join.wells interleavedWells = .error error) ↔
        ∃ row ∈ interleavedWells, ∃ text fault, row.find? geometryColumn = some (.text text) ∧
          (Shape.ofText text : Except GeometryFault (Shape Float)) = .error fault) ∧
      ∀ features, assemble Join.wells interleavedWells = .ok features →
        List.Forall₂ (FeatureOf Join.wells) (Join.wells.groups interleavedWells) features := by
  have hplain : ∀ relation ∈ Join.wells.relations, '.' ∉ relation.title.toList := by decide
  have hnodup : (Join.wells.relations.map Relation.title).Nodup := by decide
  have hids : ∀ row ∈ interleavedWells, row.contains Join.wells.objectIdField = true := by
    decide +kernel
  exact ⟨hplain, hnodup, hids, by decide +kernel, by decide +kernel,
    assemble_groups hplain hnodup hids⟩

/-- Wells whose object id has the name of the geometry in an answer. -/
def hiddenWells : Layer := { Join.wells with objectIdField := geometryColumn }

/-- Wells whose samples are joined on a column that has the name of the geometry in an answer. -/
def joinedWells : Layer :=
  { Join.wells with relations := [{ Join.samples with sourceColumn := geometryColumn }] }

/-- What stands in a row under the name of the geometry is only read as a geometry. So rows with one
object id under this name are two features, and a related row that is joined on it has a null for it.
Nor is a column of a relation an object id. -/
theorem geometry_place_not_read :
    let dotted := { Join.wells with objectIdField := "samples.id" }
    let sampled (name : String) (ph : Int) : Attributes :=
      .ofList [(name, .integer 7), ("samples.ph", .integer ph)]
    (hiddenWells.faults = [] ∧
      (firstOccurrences ([sampled geometryColumn 65, sampled geometryColumn 71].filterMap
        (objectIdText? hiddenWells))).length = 1 ∧
      (assemble hiddenWells [sampled geometryColumn 65, sampled geometryColumn 71]).toOption.map
        List.length = some 2) ∧
    ((firstOccurrences ([sampled "samples.id" 65, sampled "samples.id" 71].filterMap
        (objectIdText? dotted))).length = 1 ∧
      (assemble dotted [sampled "samples.id" 65, sampled "samples.id" 71]).toOption.map
        List.length = some 2) ∧
    joinedWells.faults = [] ∧
      let row := (sampled "db_id" 65).insert geometryColumn (.integer 3)
      (row.find? geometryColumn).map Json.compress = some "3" ∧
        (assemble joinedWells [row]).toOption.map (·.map fun feature =>
          (feature.related.find? "samples").map (·.map fun related =>
            (related.find? "site_id").map Json.compress)) = some [some [some "null"]] := by
  decide +kernel

end GeoLayers
