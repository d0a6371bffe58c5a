import GeoLayers.Proofs.Query.Assembly
import GeoLayers.Proofs.Query.Layout

/-!
Rows of distinct object ids. Each of them is a feature of its own, and the same one in whatever rows
it stands. The object id is known by its text; where it is no attribute of a feature, because the row
has it as a geometry or as a column of a relation, no two rows are ever one feature.
-/

namespace GeoLayers

variable {layer : Layer} {row : Attributes} {rows : List Attributes}

/-- The text of the object id in a row. -/
def objectIdText? (layer : Layer) (row : Attributes) : Option String :=
  (row.find? layer.objectIdField).map Join.idText

/-- What a row is known by, if it is taken up when there are as many features as told. -/
def rowIdentity (layer : Layer) (row : Attributes) (place : Nat) : String :=
  identity layer (SplitRow.ofRow layer (row.erase geometryColumn)).attributes place

/-- Whether the object id is an attribute of a feature. -/
def Layer.keepsObjectId (layer : Layer) : Bool :=
  layer.objectIdField != geometryColumn && !layer.relations.any (·.owns layer.objectIdField)

theorem find?_objectIdField (layer : Layer) (row : Attributes) :
    (SplitRow.ofRow layer (row.erase geometryColumn)).attributes.find? layer.objectIdField =
      if layer.keepsObjectId then row.find? layer.objectIdField else none := by
  rw [find?_attributes_ofRow, Dictionary.find?_erase, Layer.keepsObjectId]
  by_cases howned : layer.relations.any (·.owns layer.objectIdField) = true
  · simp [howned]
  · by_cases hgeometry : layer.objectIdField = geometryColumn
    · simp [hgeometry]
    · simp [howned, hgeometry]

theorem rowIdentity_of_keeps (hkeeps : layer.keepsObjectId = true) {id : String}
    (hid : objectIdText? layer row = some id) (place : Nat) : rowIdentity layer row place = id := by
  obtain ⟨value, hvalue, rfl⟩ := Option.map_eq_some_iff.1 hid
  have hfound := find?_objectIdField layer row
  rw [if_pos hkeeps, hvalue] at hfound
  rw [rowIdentity, identity, hfound]
  cases value <;> rfl

theorem rowIdentity_of_not_keeps (hkeeps : layer.keepsObjectId = false) (place : Nat) :
    rowIdentity layer row place = toString place := by
  have hfound := find?_objectIdField layer row
  rw [hkeeps] at hfound
  rw [rowIdentity, identity, hfound]
  rfl

/-- Where the object id is no attribute, rows are told apart by their places. -/
theorem nodup_rowIdentity_of_not_keeps (hkeeps : layer.keepsObjectId = false)
    (rows : List Attributes) :
    ((rows.zipIdx 0).map fun (row, place) => rowIdentity layer row place).Nodup := by
  have hplaces : ((rows.zipIdx 0).map fun (row, place) => rowIdentity layer row place) =
      ((rows.zipIdx 0).map Prod.snd).map toString := by
    rw [List.map_map]
    apply List.map_congr_left
    rintro ⟨row, place⟩ -
    exact rowIdentity_of_not_keeps hkeeps place
  rw [hplaces, List.zipIdx_map_snd]
  exact List.Nodup.map toString_injective (List.nodup_range' 1)

/-- The feature of a row and a geometry. -/
def rowFeature (layer : Layer) (row : Attributes) (geometry : Option (Geometry Float)) : Feature :=
  let split := SplitRow.ofRow layer (row.erase geometryColumn)
  { attributes := split.attributes, geometry : Feature }.addRelated split.related

/-- Rows that are told apart are one new feature each. -/
theorem foldlM_addRow_distinct (features : FeatureList)
    (hgeometry : ∀ row ∈ rows, ∃ geometry, geometryIn row = .ok geometry)
    (hdistinct : (features.map Prod.fst ++
      (rows.zipIdx features.length).map fun (row, place) => rowIdentity layer row place).Nodup) :
    ∃ new : FeatureList, rows.foldlM (FeatureList.addRow layer) features = .ok (features ++ new) ∧
      List.Forall₂ (fun row feature => ∃ geometry, geometryIn row = .ok geometry ∧
        feature = rowFeature layer row geometry) rows (new.map Prod.snd) := by
  induction rows generalizing features with
  | nil => exact ⟨[], by simp [pure, Except.pure], .nil⟩
  | cons row rows ih =>
      obtain ⟨⟨geometry, hrow⟩, hrows⟩ := List.forall_mem_cons.1 hgeometry
      have hfresh : rowIdentity layer row features.length ∉ features.map Prod.fst := by
        intro hmem
        exact (List.nodup_append.1 hdistinct).2.2 _ hmem _ List.mem_cons_self rfl
      have hadd : FeatureList.addRow layer features row =
          .ok (features ++ [(rowIdentity layer row features.length,
            rowFeature layer row geometry)]) := by
        rw [FeatureList.addRow, hrow]
        change Except.ok (FeatureList.add _ (rowIdentity layer row features.length) _ _) = _
        rw [FeatureList.add_fresh hfresh]
        rfl
      obtain ⟨new, hnew, hfeatures⟩ := ih (features ++ [(rowIdentity layer row features.length,
        rowFeature layer row geometry)]) hrows (by simpa using hdistinct)
      refine ⟨(rowIdentity layer row features.length, rowFeature layer row geometry) :: new, ?_,
        .cons ⟨geometry, hrow, rfl⟩ hfeatures⟩
      rw [List.foldlM_cons, hadd]
      exact hnew.trans (by rw [List.append_assoc]; rfl)

/-- Rows with object ids whose texts differ, and with geometries that can be read. -/
structure DistinctRows (layer : Layer) (rows : List Attributes) : Prop where
  hasId : ∀ row ∈ rows, (objectIdText? layer row).isSome
  distinct : (rows.map (objectIdText? layer)).Nodup
  geometry : ∀ row ∈ rows, ∃ geometry, geometryIn row = .ok geometry

theorem DistinctRows.sublist {some : List Attributes} (h : DistinctRows layer rows)
    (hsub : some.Sublist rows) : DistinctRows layer some where
  hasId row hmem := h.hasId row (hsub.subset hmem)
  distinct := h.distinct.sublist (hsub.map _)
  geometry row hmem := h.geometry row (hsub.subset hmem)

theorem DistinctRows.nodup_identities (h : DistinctRows layer rows) :
    ((rows.zipIdx 0).map fun (row, place) => rowIdentity layer row place).Nodup := by
  cases hkeeps : layer.keepsObjectId with
  | true =>
      have hids : ((rows.zipIdx 0).map fun (row, place) => rowIdentity layer row place).map some =
          rows.map (objectIdText? layer) := by
        conv => rhs; rw [← List.zipIdx_map_fst 0 rows]
        rw [List.map_map, List.map_map]
        apply List.map_congr_left
        rintro ⟨row, place⟩ hmem
        obtain ⟨id, hid⟩ := Option.isSome_iff_exists.1
          (h.hasId row (List.fst_mem_of_mem_zipIdx hmem))
        exact (congrArg some (rowIdentity_of_keeps hkeeps hid place)).trans hid.symm
      exact List.Nodup.of_map some (hids ▸ h.distinct)
  | false => exact nodup_rowIdentity_of_not_keeps hkeeps rows

theorem assemble_of_foldlM {new : FeatureList}
    (h : rows.foldlM (FeatureList.addRow layer) [] = .ok new) :
    assemble layer rows = .ok (new.map Prod.snd) := by
  rw [assemble, h]
  rfl

/-- The feature of a row alone. -/
theorem assemble_singleton {geometry : Option (Geometry Float)}
    (h : geometryIn row = .ok geometry) :
    assemble layer [row] = .ok [rowFeature layer row geometry] := by
  rw [assemble, List.foldlM_cons, FeatureList.addRow, h]
  rfl

/-- Each row of distinct object ids is one feature, in the order of the rows. -/
theorem DistinctRows.assemble (h : DistinctRows layer rows) :
    ∃ features, assemble layer rows = .ok features ∧
      List.Forall₂ (fun row feature => GeoLayers.assemble layer [row] = .ok [feature]) rows
        features := by
  obtain ⟨new, hnew, hfeatures⟩ := foldlM_addRow_distinct [] h.geometry
    (by simpa using h.nodup_identities)
  refine ⟨new.map Prod.snd, assemble_of_foldlM hnew, hfeatures.imp ?_⟩
  rintro row feature ⟨geometry, hgeometry, rfl⟩
  exact assemble_singleton hgeometry

end GeoLayers
