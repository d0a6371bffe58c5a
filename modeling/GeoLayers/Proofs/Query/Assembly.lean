import GeoLayers.Proofs.Query.AnswerRow
import GeoLayers.Proofs.Query.Plan

/-!
How the features of a query undo its joins. A row of the answer splits into the own columns of a row
of the layer and one related row for every joined table with selected columns; the rows of one object
id become one feature. Nothing is lost, but with several joined tables a related row is there once
for each combination of the rows of the others.
-/

namespace GeoLayers

namespace Feature

theorem addRelated_cons (feature : Feature) (title : String) (row : Option Attributes)
    (related : List (String × Option Attributes)) :
    feature.addRelated ((title, row) :: related) =
      { feature with
        related := feature.related.insert title
          ((feature.related.find? title).getD [] ++ row.toList) }.addRelated related :=
  rfl

theorem attributes_addRelated (feature : Feature) (related : List (String × Option Attributes)) :
    (feature.addRelated related).attributes = feature.attributes := by
  induction related generalizing feature with
  | nil => rfl
  | cons entry related ih => exact ih _

theorem geometry_addRelated (feature : Feature) (related : List (String × Option Attributes)) :
    (feature.addRelated related).geometry = feature.geometry := by
  induction related generalizing feature with
  | nil => rfl
  | cons entry related ih => exact ih _

/-- Under every title that is added to, the new row follows the rows that are there. -/
theorem find?_addRelated {related : List (String × Option Attributes)}
    (hnodup : (related.map Prod.fst).Nodup) (feature : Feature) (title : String) :
    (feature.addRelated related).related.find? title =
      match related.lookup title with
      | none => feature.related.find? title
      | some row => some ((feature.related.find? title).getD [] ++ row.toList) := by
  induction related generalizing feature with
  | nil => rfl
  | cons entry related ih =>
      obtain ⟨key, row⟩ := entry
      rw [List.map_cons, List.nodup_cons] at hnodup
      obtain ⟨hfresh, hnodup⟩ := hnodup
      rw [addRelated_cons, ih hnodup, Dictionary.lookup_cons_eq_ite, Dictionary.find?_insert]
      by_cases htitle : title = key
      · subst htitle
        rw [Dictionary.lookup_of_notMem hfresh, if_pos rfl, if_pos rfl]
      · rw [if_neg htitle, if_neg htitle]

end Feature

namespace FeatureList

variable {features : FeatureList} {key : String}

theorem add_fresh (h : key ∉ features.map Prod.fst) (feature : Feature)
    (related : List (String × Option Attributes)) :
    add features key feature related = features ++ [(key, feature.addRelated related)] := by
  induction features with
  | nil => rfl
  | cons entry features ih =>
      obtain ⟨hkey, hrest⟩ := List.ne_and_not_mem_of_not_mem_cons h
      rw [add, if_neg (Ne.symm hkey), ih hrest]
      rfl

theorem add_known (h : key ∉ features.map Prod.fst) (known feature : Feature)
    (related : List (String × Option Attributes)) :
    add (features ++ [(key, known)]) key feature related =
      features ++ [(key, known.addRelated related)] := by
  induction features with
  | nil => exact if_pos rfl
  | cons entry features ih =>
      obtain ⟨hkey, hrest⟩ := List.ne_and_not_mem_of_not_mem_cons h
      rw [List.cons_append, add, if_neg (Ne.symm hkey), ih hrest]
      rfl

end FeatureList

namespace Join

/-- Whether every related row has a value in a selected column, if there are such columns. -/
def Tables.HasValues (tables : Tables) (names : List String) (relations : List Relation) : Prop :=
  ∀ relation ∈ relations, selected names relation ≠ [] → ∀ row ∈ tables.rows relation,
    ∃ column ∈ selected names relation, (row column).isNull = false

/-- A feature that stands for a row of the layer. Its related rows are the matching ones, each as
often as there are combinations of the rows of the other joined tables. -/
structure Assembled (tables : Tables) (layer : Layer) (names : List String) (withGeometry : Bool)
    (relations : List Relation) (parent : Parent) (feature : Feature) : Prop where
  attributes : feature.attributes = parent.attributes layer names
  geometry : parent.geometry names withGeometry = .ok feature.geometry
  related : ∀ relation ∈ relations, selected names relation ≠ [] →
    ∃ rows : List Attributes, feature.related.find? relation.title = some rows ∧
      (rows : Multiset Attributes) = tables.repetitions parent relations relation •
        ((tables.partners parent relation).map
          (relatedRow names feature.attributes relation) : Multiset Attributes)
  others : ∀ title, (∀ relation ∈ layer.relations, relation.title = title →
    selected names relation = []) → feature.related.find? title = none

variable {layer : Layer} {names : List String} {withGeometry : Bool} {parent : Parent}
  {combination : Combination} {relation : Relation}

/-- Adds the related rows of a combination to a feature. -/
def addCombination (layer : Layer) (names : List String) (feature : Feature)
    (combination : Combination) : Feature :=
  feature.addRelated (relatedParts layer names feature.attributes combination)

theorem attributes_addCombination (feature : Feature) :
    (addCombination layer names feature combination).attributes = feature.attributes :=
  Feature.attributes_addRelated _ _

theorem attributes_foldl_addCombination (feature : Feature) (order : List Combination) :
    (order.foldl (addCombination layer names) feature).attributes = feature.attributes := by
  induction order generalizing feature with
  | nil => rfl
  | cons combination order ih => rw [List.foldl_cons, ih, attributes_addCombination]

theorem geometry_foldl_addCombination (feature : Feature) (order : List Combination) :
    (order.foldl (addCombination layer names) feature).geometry = feature.geometry := by
  induction order generalizing feature with
  | nil => rfl
  | cons combination order ih => rw [List.foldl_cons, ih, addCombination, Feature.geometry_addRelated]

/-- The related row that a combination gives a feature, if it gives one. -/
def related? (names : List String) (attributes : Attributes) (relation : Relation)
    (combination : Combination) : Option Attributes :=
  (combination.row? relation.title).bind fun row =>
    relation.rowIn? (selectedColumns names relation row) attributes

theorem related_addCombination (hlayer : layer.faults = []) (hmem : relation ∈ layer.relations)
    (hselected : selected names relation ≠ []) (feature : Feature) (combination : Combination) :
    (addCombination layer names feature combination).related.find? relation.title =
      some ((feature.related.find? relation.title).getD [] ++
        (related? names feature.attributes relation combination).toList) := by
  rw [addCombination, Feature.find?_addRelated (nodup_relatedParts hlayer feature.attributes),
    lookup_relatedParts hlayer hmem hselected]
  rfl

/-- Every further combination adds its row of a relation after the rows that are there. -/
theorem related_foldl_addCombination (hlayer : layer.faults = [])
    (hmem : relation ∈ layer.relations) (hselected : selected names relation ≠ [])
    {feature : Feature} {rows : List Attributes}
    (hrows : feature.related.find? relation.title = some rows) (order : List Combination) :
    (order.foldl (addCombination layer names) feature).related.find? relation.title =
      some (rows ++ order.filterMap (related? names feature.attributes relation)) := by
  induction order generalizing feature rows with
  | nil => simpa using hrows
  | cons combination order ih =>
      have hnext := related_addCombination hlayer hmem hselected feature combination
      rw [List.foldl_cons, ih hnext, attributes_addCombination, hrows, List.filterMap_cons]
      cases related? names feature.attributes relation combination <;> simp

theorem others_foldl_addCombination (hlayer : layer.faults = []) {title : String}
    (htitle : ∀ relation ∈ layer.relations, relation.title = title → selected names relation = [])
    (feature : Feature) (order : List Combination) :
    (order.foldl (addCombination layer names) feature).related.find? title =
      feature.related.find? title := by
  induction order generalizing feature with
  | nil => rfl
  | cons combination order ih =>
      rw [List.foldl_cons, ih, addCombination,
        Feature.find?_addRelated (nodup_relatedParts hlayer feature.attributes),
        lookup_relatedParts_of_unselected htitle]

/-- The feature that the rows of one parent form. -/
def featureOf (layer : Layer) (names : List String) (parent : Parent)
    (geometry : Option (Geometry Float)) (order : List Combination) : Feature :=
  order.foldl (addCombination layer names) { attributes := parent.attributes layer names, geometry }

theorem related_featureOf (hlayer : layer.faults = []) (hmem : relation ∈ layer.relations)
    (hselected : selected names relation ≠ []) (geometry : Option (Geometry Float))
    {order : List Combination} (hne : order ≠ []) :
    (featureOf layer names parent geometry order).related.find? relation.title =
      some (order.filterMap (related? names (parent.attributes layer names) relation)) := by
  obtain ⟨combination, order, rfl⟩ := List.exists_cons_of_ne_nil hne
  have hfirst := related_addCombination hlayer hmem hselected
    { attributes := parent.attributes layer names, geometry } combination
  rw [featureOf, List.foldl_cons, related_foldl_addCombination hlayer hmem hselected hfirst,
    attributes_addCombination, List.filterMap_cons]
  cases related? names (parent.attributes layer names) relation combination <;> rfl

/-- With selected values in all related rows, the related rows of a feature are the matching ones,
repeated for the combinations of the rows of the other tables. -/
theorem assembled_featureOf {tables : Tables} {relations : List Relation} (hlayer : layer.faults = [])
    (hrelations : relations.Sublist layer.relations)
    (hvalues : tables.HasValues names relations)
    {geometry : Option (Geometry Float)} (hgeometry : parent.geometry names withGeometry = .ok geometry)
    {order : List Combination} (horder : order.Perm (tables.combinations parent relations)) :
    Assembled tables layer names withGeometry relations parent
      (featureOf layer names parent geometry order) where
  attributes := attributes_foldl_addCombination _ order
  geometry := by
    rw [featureOf, geometry_foldl_addCombination]
    exact hgeometry
  related := by
    intro relation hmem hselected
    have hne : order ≠ [] := by
      rintro rfl
      exact Tables.combinations_ne_nil relations horder.nil_eq.symm
    refine ⟨_, related_featureOf hlayer (hrelations.subset hmem) hselected geometry hne, ?_⟩
    have hattributes : (featureOf layer names parent geometry order).attributes =
        parent.attributes layer names := attributes_foldl_addCombination _ order
    rw [hattributes]
    -- The rows of the relation among the combinations, each with its selected columns.
    have hrows : ((order.filterMap (·.row? relation.title) : List TableRow) : Multiset TableRow) =
        tables.repetitions parent relations relation •
          (tables.partners parent relation : Multiset TableRow) := by
      rw [Multiset.coe_eq_coe.2 (horder.filterMap _)]
      exact Tables.coe_rows_combinations
        ((layer.titles_nodup hlayer).sublist (hrelations.map Relation.title)) hmem
    have hrelated : order.filterMap (related? names (parent.attributes layer names) relation) =
        (order.filterMap (·.row? relation.title)).map
          (relatedRow names (parent.attributes layer names) relation) := by
      calc order.filterMap (related? names (parent.attributes layer names) relation)
        _ = (order.filterMap (·.row? relation.title)).filterMap fun row =>
            relation.rowIn? (selectedColumns names relation row) (parent.attributes layer names) :=
          List.filterMap_filterMap.symm
        _ = _ := by
          rw [List.filterMap_eq_map_iff_forall_eq_some]
          intro row hrow
          have hpartner : row ∈ tables.partners parent relation := by
            rw [← Multiset.mem_coe, hrows] at hrow
            exact Multiset.mem_of_mem_nsmul hrow
          exact rowIn?_of_value
            (hvalues relation hmem hselected row (List.mem_filter.1 hpartner).1)
    rw [hrelated, ← Multiset.map_coe, hrows, Multiset.map_nsmul, Multiset.map_coe]
  others := by
    intro title htitle
    rw [featureOf, others_foldl_addCombination hlayer htitle]
    rfl

section Rows

variable (hlayer : layer.faults = []) (hname : layer.objectIdField ∈ names)
  (hother : layer.objectIdField ≠ geometryColumn)

include hlayer hname hother

/-- A row of an answer adds its related rows to the feature of its object id, unless its geometry
cannot be read. -/
theorem addRow_answerRow
    (htitles : ∀ title ∈ combination.map Prod.fst, title ∈ layer.relations.map Relation.title)
    (features : FeatureList) :
    features.addRow layer (answerRow names withGeometry parent combination) =
      ((parent.geometry names withGeometry).mapError Error.geometry).map fun geometry =>
        features.add (parent.key layer) { attributes := parent.attributes layer names, geometry }
          (relatedParts layer names (parent.attributes layer names) combination) := by
  unfold FeatureList.addRow
  rw [geometryIn_answerRow]
  simp only [attributes_ofRow_answerRow htitles, related_ofRow_answerRow hlayer htitles,
    identity_attributes hlayer hname hother]
  cases parent.geometry names withGeometry <;> rfl

variable {features : FeatureList} {order : List Combination}
  (htitles : ∀ combination ∈ order, ∀ title ∈ combination.map Prod.fst,
    title ∈ layer.relations.map Relation.title)

include htitles

/-- Further rows of a parent go to its feature. -/
theorem foldlM_addRow_known {geometry : Option (Geometry Float)}
    (hgeometry : parent.geometry names withGeometry = .ok geometry)
    (hfresh : parent.key layer ∉ features.map Prod.fst) {known : Feature}
    (hknown : known.attributes = parent.attributes layer names) :
    (order.map (answerRow names withGeometry parent)).foldlM (FeatureList.addRow layer)
      (features ++ [(parent.key layer, known)]) =
      .ok (features ++ [(parent.key layer, order.foldl (addCombination layer names) known)]) := by
  induction order generalizing known with
  | nil => rfl
  | cons combination order ih =>
      rw [List.forall_mem_cons] at htitles
      rw [List.map_cons, List.foldlM_cons, addRow_answerRow hlayer hname hother htitles.1, hgeometry]
      change (order.map _).foldlM _ (FeatureList.add _ _ _ _) = _
      rw [FeatureList.add_known hfresh, ← hknown]
      exact ih htitles.2 ((attributes_addCombination known).trans hknown)

/-- The rows of a new parent form one new feature. -/
theorem foldlM_addRow_group {geometry : Option (Geometry Float)}
    (hgeometry : parent.geometry names withGeometry = .ok geometry)
    (hfresh : parent.key layer ∉ features.map Prod.fst) (hne : order ≠ []) :
    (order.map (answerRow names withGeometry parent)).foldlM (FeatureList.addRow layer) features =
      .ok (features ++ [(parent.key layer, featureOf layer names parent geometry order)]) := by
  obtain ⟨combination, order, rfl⟩ := List.exists_cons_of_ne_nil hne
  rw [List.forall_mem_cons] at htitles
  rw [List.map_cons, List.foldlM_cons, addRow_answerRow hlayer hname hother htitles.1, hgeometry]
  change (order.map _).foldlM _ (FeatureList.add _ _ _ _) = _
  rw [FeatureList.add_fresh hfresh]
  exact foldlM_addRow_known hlayer hname hother htitles.2 hgeometry hfresh
    (Feature.attributes_addRelated _ _)

/-- A geometry that cannot be read fails the rows of its parent. -/
theorem foldlM_addRow_unreadable {fault : GeometryFault}
    (hgeometry : parent.geometry names withGeometry = .error fault) (hne : order ≠ []) :
    (order.map (answerRow names withGeometry parent)).foldlM (FeatureList.addRow layer) features =
      .error (.geometry fault) := by
  obtain ⟨combination, order, rfl⟩ := List.exists_cons_of_ne_nil hne
  rw [List.forall_mem_cons] at htitles
  rw [List.map_cons, List.foldlM_cons, addRow_answerRow hlayer hname hother htitles.1, hgeometry]
  rfl

end Rows

variable {tables : Tables} {parents : List Parent} {rows : List Attributes}
  {relations : List Relation}

/-- The rows of an answer form one feature for each row of the layer, after the features that there
are already. -/
theorem foldlM_addRow_answers (hlayer : layer.faults = []) (hname : layer.objectIdField ∈ names)
    (hother : layer.objectIdField ≠ geometryColumn)
    (hrelations : relations.Sublist layer.relations)
    (hvalues : tables.HasValues names relations)
    (hrows : tables.Answers names withGeometry relations parents rows) (features : FeatureList)
    (hdistinct : (features.map Prod.fst ++ parents.map (Parent.key layer)).Nodup) :
    (∃ parent ∈ parents, ∃ fault, parent.geometry names withGeometry = .error fault ∧
        rows.foldlM (FeatureList.addRow layer) features = .error (.geometry fault)) ∨
      ∃ new : FeatureList,
        rows.foldlM (FeatureList.addRow layer) features = .ok (features ++ new) ∧
          List.Forall₂ (Assembled tables layer names withGeometry relations) parents
            (new.map Prod.snd) := by
  induction hrows generalizing features with
  | nil => exact .inr ⟨[], by simp [pure, Except.pure], .nil⟩
  | cons horder hrows ih =>
      rename_i parent parents order rows
      have hne : order ≠ [] := by
        rintro rfl
        exact Tables.combinations_ne_nil relations horder.nil_eq.symm
      have htitles : ∀ combination ∈ order, ∀ title ∈ combination.map Prod.fst,
          title ∈ layer.relations.map Relation.title := by
        intro combination hmem title htitle
        rw [Tables.titles_of_mem_combinations (horder.subset hmem)] at htitle
        exact (hrelations.map Relation.title).subset htitle
      rw [List.foldlM_append]
      cases hgeometry : parent.geometry names withGeometry with
      | error fault =>
          rw [foldlM_addRow_unreadable hlayer hname hother htitles hgeometry hne]
          exact .inl ⟨parent, List.mem_cons_self, fault, hgeometry, rfl⟩
      | ok geometry =>
          have hfresh : parent.key layer ∉ features.map Prod.fst := by
            intro hmem
            have hdisjoint := (List.nodup_append.1 hdistinct).2.2
            exact hdisjoint _ hmem _ List.mem_cons_self rfl
          rw [foldlM_addRow_group hlayer hname hother htitles hgeometry hfresh hne]
          have hnext : ((features ++ [(parent.key layer,
              featureOf layer names parent geometry order)]).map Prod.fst ++
                parents.map (Parent.key layer)).Nodup := by
            simpa using hdistinct
          rcases ih _ hnext with ⟨later, hmem, fault, hfault, hfold⟩ | ⟨new, hfold, hnew⟩
          · exact .inl ⟨later, List.mem_cons_of_mem _ hmem, fault, hfault, hfold⟩
          · refine .inr ⟨(parent.key layer, featureOf layer names parent geometry order) :: new,
              ?_, .cons ?_ hnew⟩
            · exact hfold.trans (by rw [List.append_assoc]; rfl)
            · exact assembled_featureOf hlayer hrelations hvalues hgeometry horder

/-- The rows of a join become one feature for each row of the layer, in order, with exactly the
matching related rows, each as often as there are combinations of the rows of the other joined
tables. Only a geometry that cannot be read keeps the features from being made. -/
theorem assemble_join {catalog : Catalog} {request : QueryRequest} {plan : Plan}
    (hlayer : layer.faults = []) (hplan : Plan.make layer catalog request = .ok plan)
    (hfields : plan.projection = .fields names withGeometry)
    (hid : layer.objectIdField ≠ layer.geometryField)
    (hother : layer.objectIdField ≠ geometryColumn)
    (hvalues : tables.HasValues names (plan.relations layer))
    (hdistinct : (parents.map (Parent.key layer)).Nodup)
    (hrows : tables.Answers names withGeometry (plan.relations layer) parents rows) :
    (∃ parent ∈ parents, ∃ fault, parent.geometry names withGeometry = .error fault ∧
        assemble layer rows = .error (.geometry fault)) ∨
      ∃ features, assemble layer rows = .ok features ∧
        List.Forall₂ (Assembled tables layer names withGeometry (plan.relations layer)) parents
          features := by
  have hname := Plan.objectIdField_mem_of_make hlayer hplan hfields hid
  rcases foldlM_addRow_answers hlayer hname hother List.filter_sublist hvalues hrows [] hdistinct with
    ⟨parent, hmem, fault, hfault, hfold⟩ | ⟨features, hfold, hfeatures⟩
  · refine .inl ⟨parent, hmem, fault, hfault, ?_⟩
    rw [assemble, hfold]
    rfl
  · refine .inr ⟨features.map Prod.snd, ?_, hfeatures⟩
    rw [assemble, hfold]
    rfl

/-- Whether any answer becomes one feature for each row of the layer with exactly the matching
related rows, each once. -/
def Undone (tables : Tables) (layer : Layer) (names : List String) (withGeometry : Bool)
    (relations : List Relation) (parents : List Parent) : Prop :=
  ∀ rows, tables.Answers names withGeometry relations parents rows →
    ∃ features, assemble layer rows = .ok features ∧
      List.Forall₂ (fun parent feature =>
        ∀ relation ∈ relations, selected names relation ≠ [] →
          ∃ related, feature.related.find? relation.title = some related ∧
            related.Perm ((tables.partners parent relation).map
              (relatedRow names feature.attributes relation)))
        parents features

/-- The numbers of related rows under a title, feature by feature. -/
def relatedCounts (title : String) (features : List Feature) : List (Option Nat) :=
  features.map fun feature => (feature.related.find? title).map List.length

theorem relatedCounts_of_undone (h : Undone tables layer names withGeometry relations parents)
    (hrows : tables.Answers names withGeometry relations parents rows)
    (hmem : relation ∈ relations) (hselected : selected names relation ≠ []) :
    (assemble layer rows).toOption.map (relatedCounts relation.title) =
      some (parents.map fun parent => some (tables.partners parent relation).length) := by
  obtain ⟨features, hfeatures, hall⟩ := h rows hrows
  rw [hfeatures]
  change some (relatedCounts relation.title features) = _
  congr 1
  clear h hrows hfeatures
  induction hall with
  | nil => rfl
  | cons hfirst _ ih =>
      obtain ⟨related, hfound, hrelated⟩ := hfirst relation hmem hselected
      rw [relatedCounts, List.map_cons, List.map_cons, hfound, ← ih, Option.map_some,
        hrelated.length_eq, List.length_map]
      rfl

def rowOf (entries : List (String × Json)) : TableRow := fun column =>
  (entries.lookup column).getD .null

def samples : Relation := ⟨"samples", 0, "site_id", "site_id", "db_samples"⟩

def logs : Relation := ⟨"logs", 1, "db_id", "well_id", "db_logs"⟩

/-- Wells with the samples of their site and with logs of their own. -/
def wells : Layer where
  id := 0
  name := "Wells"
  table := "db_wells"
  kind := .point
  relations := [samples, logs]

def wellsCatalog : Catalog where
  fields := [.ofColumn "db_id" "integer" false, .ofColumn "site_id" "integer" true]
  related := [.ofColumns samples [.ofColumn "site_id" "integer" true, .ofColumn "ph" "integer" true],
    .ofColumns logs [.ofColumn "well_id" "integer" true, .ofColumn "note" "text" true]]

/-- A query of a well with its samples and its logs. -/
def wellsRequest (withGeometry : Bool) : QueryRequest where
  fields := ["samples.ph", "logs.note"]
  objectIds := [7]
  withGeometry := withGeometry

def wellsPlan (layer : Layer) (withGeometry : Bool) : Plan :=
  Plan.ofCondition layer wellsCatalog (wellsRequest withGeometry) none

/-- Three samples, two of them of the third site, and two logs of the seventh well. -/
def wellsTables : Tables where
  rows relation :=
    if relation = samples then
      [rowOf [("site_id", .integer 3), ("ph", .integer 65)],
        rowOf [("site_id", .integer 3), ("ph", .integer 71)],
        rowOf [("site_id", .integer 4), ("ph", .integer 70)]]
    else
      [rowOf [("well_id", .integer 7), ("note", .text "a")],
        rowOf [("well_id", .integer 7), ("note", .text "b")]]
  equal a b :=
    match a, b with
    | .integer m, .integer n => m == n
    | _, _ => false

/-- A well of the third site. -/
def wellOf (id shape : Json) : Parent := ⟨rowOf [("db_id", id), ("site_id", .integer 3)], shape⟩

theorem wellsPlan_sound : wells.faults = [] ∧
    Plan.make wells wellsCatalog (wellsRequest false) = .ok (wellsPlan wells false) ∧
      (wellsPlan wells false).projection =
        .fields ["db_id", "site_id", "samples.ph", "logs.note"] false := by
  refine ⟨?_, ?_, ?_⟩
  · decide +kernel
  · rfl
  · decide +kernel

theorem assemble_join_wells :
    let names := ["db_id", "site_id", "samples.ph", "logs.note"]
    let relations := (wellsPlan wells false).relations wells
    let parents := [wellOf (.integer 7) .null, wellOf (.integer 8) .null]
    let rows := wellsTables.nestedLoops names false relations parents
    (wells.faults = [] ∧ Plan.make wells wellsCatalog (wellsRequest false) = .ok (wellsPlan wells false) ∧
        (wellsPlan wells false).projection = .fields names false) ∧
      wells.objectIdField ≠ wells.geometryField ∧ wells.objectIdField ≠ geometryColumn ∧
      wellsTables.HasValues names relations ∧ (parents.map (Parent.key wells)).Nodup ∧
      wellsTables.Answers names false relations parents rows ∧
      ((∃ parent ∈ parents, ∃ fault, parent.geometry names false = .error fault ∧
          assemble wells rows = .error (.geometry fault)) ∨
        ∃ features, assemble wells rows = .ok features ∧
          List.Forall₂ (Assembled wellsTables wells names false relations) parents features) := by
  intro names relations parents rows
  obtain ⟨hlayer, hplan, hfields⟩ := wellsPlan_sound
  have hid : wells.objectIdField ≠ wells.geometryField := by decide
  have hother : wells.objectIdField ≠ geometryColumn := by decide
  have hvalues : wellsTables.HasValues names relations := by
    unfold Tables.HasValues
    decide +kernel
  have hdistinct : (parents.map (Parent.key wells)).Nodup := by decide +kernel
  have hrows : wellsTables.Answers names false relations parents rows :=
    wellsTables.answers_nestedLoops names false relations parents
  exact ⟨⟨hlayer, hplan, hfields⟩, hid, hother, hvalues, hdistinct, hrows,
    assemble_join hlayer hplan hfields hid hother hvalues hdistinct hrows⟩

/-- The joins of a valid query are not undone: beside two logs each sample of a well is there twice.
Nor are they if the object ids of two wells have one text, if the object id is not selected because
it stands in the column of the geometry, or if a geometry cannot be read. -/
theorem join_not_undone :
    let names := ["db_id", "site_id", "samples.ph", "logs.note"]
    let hidden := { wells with geometryField := "db_id" }
    (wells.faults = [] ∧ Plan.make wells wellsCatalog (wellsRequest false) = .ok (wellsPlan wells false) ∧
        (wellsPlan wells false).projection = .fields names false ∧
        wellsTables.HasValues names wells.relations ∧
        ¬ Undone wellsTables wells names false ((wellsPlan wells false).relations wells)
          [wellOf (.integer 7) .null]) ∧
      ¬ Undone wellsTables wells names false ((wellsPlan wells false).relations wells)
          [wellOf (.integer 1) .null, wellOf (.text "1") .null] ∧
      ¬ Undone wellsTables hidden (names.drop 1) false ((wellsPlan hidden false).relations hidden)
          [wellOf (.integer 7) .null] ∧
      ¬ Undone wellsTables wells names true ((wellsPlan wells true).relations wells)
          [wellOf (.integer 7) (.text "GEOMETRYCOLLECTION EMPTY")] := by
  intro names hidden
  have hcounts {layer : Layer} {names : List String} {withGeometry : Bool} {relations : List Relation}
      {parents : List Parent} (hmem : samples ∈ relations) (hselected : selected names samples ≠ [])
      (hne : (assemble layer (wellsTables.nestedLoops names withGeometry relations parents)).toOption.map
        (relatedCounts samples.title) ≠
          some (parents.map fun parent => some (wellsTables.partners parent samples).length)) :
      ¬ Undone wellsTables layer names withGeometry relations parents := by
    intro h
    exact hne (relatedCounts_of_undone h
      (wellsTables.answers_nestedLoops names withGeometry relations parents) hmem hselected)
  obtain ⟨hlayer, hplan, hfields⟩ := wellsPlan_sound
  refine ⟨⟨hlayer, hplan, hfields, ?_, ?_⟩, ?_, ?_, ?_⟩
  · unfold Tables.HasValues
    decide +kernel
  · exact hcounts (by decide +kernel) (by decide +kernel) (by decide +kernel)
  · exact hcounts (by decide +kernel) (by decide +kernel) (by decide +kernel)
  · exact hcounts (by decide +kernel) (by decide +kernel) (by decide +kernel)
  · exact hcounts (by decide +kernel) (by decide +kernel) (by decide +kernel)

end Join

end GeoLayers