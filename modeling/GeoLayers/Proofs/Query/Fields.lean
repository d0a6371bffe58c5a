import GeoLayers.Proofs.Layer
import GeoLayers.Query.Fields
import Mathlib.Data.List.Forall2

/-!
What the fields that are asked for stand for. The names come in the order of the fields, each at its
first place only, behind the columns that rows are joined on; a list of names that fields were
replaced by stands for itself, so it does not matter whether fields are replaced once more.
-/

namespace GeoLayers

/-! ### First occurrences -/

theorem mem_firstOccurrences {x : String} {xs : List String} :
    x ∈ firstOccurrences xs ↔ x ∈ xs := by
  induction xs with
  | nil => simp [firstOccurrences]
  | cons y ys ih =>
      rw [firstOccurrences, List.mem_cons, List.mem_cons, List.mem_filter, ih]
      by_cases hxy : x = y <;> simp [hxy]

theorem nodup_firstOccurrences (xs : List String) : (firstOccurrences xs).Nodup := by
  induction xs with
  | nil => exact List.nodup_nil
  | cons x xs ih =>
      rw [firstOccurrences, List.nodup_cons]
      exact ⟨by simp, ih.filter _⟩

theorem firstOccurrences_sublist (xs : List String) : (firstOccurrences xs).Sublist xs := by
  induction xs with
  | nil => exact List.Sublist.refl _
  | cons x xs ih => exact (List.filter_sublist.trans ih).cons_cons x

theorem firstOccurrences_of_nodup {xs : List String} (h : xs.Nodup) : firstOccurrences xs = xs := by
  induction xs with
  | nil => rfl
  | cons x xs ih =>
      obtain ⟨hfresh, hrest⟩ := List.nodup_cons.1 h
      rw [firstOccurrences, ih hrest, List.filter_eq_self.2]
      rintro y hy
      rw [bne_iff_ne]
      rintro rfl
      exact hfresh hy

theorem firstOccurrences_filter (keep : String → Bool) (xs : List String) :
    firstOccurrences (xs.filter keep) = (firstOccurrences xs).filter keep := by
  induction xs with
  | nil => rfl
  | cons x xs ih =>
      rw [firstOccurrences]
      by_cases hx : keep x = true
      · rw [List.filter_cons_of_pos hx, List.filter_cons_of_pos hx, firstOccurrences, ih,
          List.filter_filter, List.filter_filter]
        congr 1
        exact List.filter_congr fun y _ => Bool.and_comm _ _
      · rw [List.filter_cons_of_neg hx, List.filter_cons_of_neg hx, ih, List.filter_filter]
        -- What the filter keeps is different from `x` as it is.
        refine List.filter_congr fun y _ => ?_
        by_cases hy : y = x
        · simp [hy, hx]
        · simp [hy]

/-- The items of a second list follow those of the first one, unless they were there. -/
theorem firstOccurrences_append (xs ys : List String) :
    firstOccurrences (xs ++ ys) =
      firstOccurrences xs ++ (firstOccurrences ys).filter fun y => decide (y ∉ xs) := by
  induction xs with
  | nil => simp [firstOccurrences]
  | cons x xs ih =>
      rw [List.cons_append, firstOccurrences, ih, List.filter_append, List.filter_filter,
        firstOccurrences, List.cons_append]
      congr 2
      refine List.filter_congr fun y _ => ?_
      by_cases hy : y = x <;> simp [hy]

theorem firstOccurrences_concat (xs : List String) (x : String) :
    firstOccurrences (xs ++ [x]) =
      if x ∈ xs then firstOccurrences xs else firstOccurrences xs ++ [x] := by
  rw [firstOccurrences_append]
  by_cases hx : x ∈ xs <;> simp [firstOccurrences, hx]

/-- Items that were put in front of others change nothing in front of what became of them. -/
theorem firstOccurrences_append_firstOccurrences (xs ys : List String) :
    firstOccurrences (xs ++ firstOccurrences (xs ++ ys)) = firstOccurrences (xs ++ ys) := by
  have hfirst : (firstOccurrences xs).filter (fun x => decide (x ∉ xs)) = [] := by
    rw [List.filter_eq_nil_iff]
    intro x hx
    simpa using mem_firstOccurrences.1 hx
  rw [firstOccurrences_append, firstOccurrences_of_nodup (nodup_firstOccurrences (xs ++ ys)),
    firstOccurrences_append, List.filter_append, hfirst, List.nil_append, List.filter_filter]
  simp only [Bool.and_self]

/-- The same, if some items are left out in the end. -/
theorem filter_firstOccurrences_append (keep : String → Bool) (xs ys : List String) :
    (firstOccurrences (xs ++ (firstOccurrences (xs ++ ys)).filter keep)).filter keep =
      (firstOccurrences (xs ++ ys)).filter keep := by
  simp only [← firstOccurrences_filter, List.filter_append, List.filter_filter, Bool.and_self]
  exact firstOccurrences_append_firstOccurrences _ _

/-- The items stand in the order of their first places. -/
theorem pairwise_firstOccurrences (xs : List String) :
    (firstOccurrences xs).Pairwise fun x y => xs.idxOf x < xs.idxOf y := by
  induction xs with
  | nil => exact List.Pairwise.nil
  | cons z xs ih =>
      have hlater {y : String} (hy : y ∈ (firstOccurrences xs).filter (· != z)) :
          (z :: xs).idxOf y = xs.idxOf y + 1 := by
        have hne : y ≠ z := by simpa using (List.mem_filter.1 hy).2
        exact List.idxOf_cons_ne xs hne.symm
      rw [firstOccurrences, List.pairwise_cons]
      constructor
      · intro y hy
        rw [List.idxOf_cons_self, hlater hy]
        exact Nat.succ_pos _
      · refine (ih.filter (· != z)).imp_of_mem fun hx hy hlt => ?_
        rw [hlater hx, hlater hy]
        exact Nat.succ_lt_succ hlt

/-! ### What a field stands for -/

/-- What a field stands for. The relation of a title is the first one that has it. -/
inductive StandsFor (catalog : Catalog) : String → List String → Prop
  | columns : StandsFor catalog "*" (catalog.fields.map (·.name))
  | related {title : String} {related : RelatedCatalog} (h : catalog.related? title = some related) :
      StandsFor catalog (title ++ ".*") related.names
  | nothing {title : String} (h : catalog.related? title = none) :
      StandsFor catalog (title ++ ".*") []
  | itself {name : String} (hstar : name ≠ "*") (hrelated : ∀ title, name ≠ title ++ ".*") :
      StandsFor catalog name [name]

variable {layer : Layer} {catalog : Catalog} {fields meaning : List String} {field name : String}

theorem fieldMeaning_star : fieldMeaning catalog "*" = catalog.fields.map (·.name) := rfl

theorem fieldMeaning_related (title : String) : fieldMeaning catalog (title ++ ".*") =
    ((catalog.related? title).map RelatedCatalog.names).getD [] := by
  have hstar : title ++ ".*" ≠ "*" := by
    intro h
    have hlength := congrArg String.length h
    rw [String.length_append] at hlength
    exact absurd hlength (Nat.ne_of_gt (Nat.lt_add_left title.length (by decide)))
  rw [fieldMeaning, if_neg (by simpa using hstar), Text.stripEnd_eq_some.2 rfl]

theorem fieldMeaning_itself (hstar : name ≠ "*") (hrelated : ∀ title, name ≠ title ++ ".*") :
    fieldMeaning catalog name = [name] := by
  have hend : Text.stripEnd ".*" name = none :=
    Option.eq_none_iff_forall_ne_some.2 fun title htitle =>
      hrelated title (Text.stripEnd_eq_some.1 htitle)
  rw [fieldMeaning, if_neg (by simpa using hstar), hend]

theorem standsFor_iff : StandsFor catalog field meaning ↔ fieldMeaning catalog field = meaning := by
  constructor
  · intro h
    cases h with
    | columns => exact fieldMeaning_star
    | @related title related h =>
        rw [fieldMeaning_related, h]
        rfl
    | @nothing title h =>
        rw [fieldMeaning_related, h]
        rfl
    | itself hstar hrelated => exact fieldMeaning_itself hstar hrelated
  · rintro rfl
    by_cases hstar : field = "*"
    · rw [hstar]
      exact .columns
    by_cases hrelated : ∃ title, field = title ++ ".*"
    · obtain ⟨title, rfl⟩ := hrelated
      rw [fieldMeaning_related]
      cases hfound : catalog.related? title with
      | none => exact .nothing hfound
      | some related => exact .related hfound
    · have hrelated := not_exists.1 hrelated
      rw [fieldMeaning_itself hstar hrelated]
      exact .itself hstar hrelated

/-- A name without a star stands for itself. -/
theorem fieldMeaning_of_notMem (h : '*' ∉ name.toList) : fieldMeaning catalog name = [name] := by
  refine fieldMeaning_itself ?_ fun title => ?_
  · rintro rfl
    exact h (by decide)
  · rintro rfl
    exact h (by simp)

/-- A plain name stands for itself. -/
theorem fieldMeaning_of_plain (h : isPlainName name = true) (catalog : Catalog) :
    fieldMeaning catalog name = [name] :=
  fieldMeaning_of_notMem (notMem_of_isPlainName h (by decide))

/-- A name without a period is that of a field itself, unless it is a star. -/
theorem fieldMeaning_eq_self (hstar : name ≠ "*") (h : '.' ∉ name.toList) (catalog : Catalog) :
    fieldMeaning catalog name = [name] := by
  refine fieldMeaning_itself hstar fun title => ?_
  rintro rfl
  exact h (by simp)

/-- The name of a related column stands for itself, if the column has no star in its name. -/
theorem fieldMeaning_qualify {relation : Relation} {column : String} (h : '*' ∉ column.toList) :
    fieldMeaning catalog (relation.qualify column) = [relation.qualify column] := by
  have hlast : '*' ∉ '.' :: column.toList := by
    rw [List.mem_cons, not_or]
    exact ⟨by decide, h⟩
  refine fieldMeaning_itself (fun hname => ?_) fun title hname => ?_
  · have hperiod : '.' ∈ (relation.qualify column).toList := by simp [Relation.toList_qualify]
    rw [hname] at hperiod
    exact absurd hperiod (by decide)
  · -- The last character is the period or one of the column's name.
    have hend : ('.' :: column.toList).getLast? = some '*' := by
      rw [← List.getLast?_append_cons relation.title.toList, ← Relation.toList_qualify, hname]
      simp
    exact hlast (List.mem_of_getLast? hend)

/-! ### The expansion of fields -/

/-- One of the fields is a star or has a period in it. -/
def WantsKeys (fields : List String) : Prop := ∃ field ∈ fields, field = "*" ∨ '.' ∈ field.toList

instance (fields : List String) : Decidable (WantsKeys fields) :=
  inferInstanceAs (Decidable (∃ field ∈ fields, _))

/-- The columns that rows are joined on: the one with the object id, and those of the relations. -/
def Layer.keyColumns (layer : Layer) : List String :=
  layer.objectIdField :: layer.relations.map (·.sourceColumn)

/-- No column has a star in its name, be it one of the layer or of a related table. -/
structure Catalog.Starless (catalog : Catalog) : Prop where
  columns : ∀ name ∈ catalog.fields.map (·.name), '*' ∉ name.toList
  related : ∀ related ∈ catalog.related, ∃ columns : List Field,
    related = .ofColumns related.relation columns ∧ ∀ column ∈ columns, '*' ∉ column.name.toList

/-- What the expansion of fields gives. -/
structure Expanded (layer : Layer) (catalog : Catalog) (fields names : List String) : Prop where
  nodup : names.Nodup
  mem_iff (name : String) : name ∈ names ↔ name ≠ layer.geometryField ∧
    ((∃ field ∈ fields, ∃ meaning, StandsFor catalog field meaning ∧ name ∈ meaning) ∨
      WantsKeys fields ∧ name ∈ layer.keyColumns)
  /-- The object id comes first, and then the other columns that rows are joined on. -/
  keys (h : WantsKeys fields) : ∃ sources rest, names = layer.objectIdField :: (sources ++ rest) ∧
    sources.Sublist (layer.relations.map (·.sourceColumn)) ∧
    ∀ name ∈ layer.keyColumns, name ≠ layer.geometryField →
      name = layer.objectIdField ∨ name ∈ sources
  /-- The names stand in the order of their first places. -/
  order : ∃ meanings, List.Forall₂ (StandsFor catalog) fields meanings ∧
    let written := (if WantsKeys fields then layer.keyColumns else []) ++ meanings.flatten
    names.Pairwise fun x y => written.idxOf x < written.idxOf y

theorem any_needsKeys : fields.any needsKeys = true ↔ WantsKeys fields := by
  simp [needsKeys, WantsKeys]

/-- The names that fields are replaced by, before any of them is taken away. -/
def writtenNames (layer : Layer) (catalog : Catalog) (fields : List String) : List String :=
  (if WantsKeys fields then layer.keyColumns else []) ++ fields.flatMap (fieldMeaning catalog)

theorem expandFields_eq (layer : Layer) (catalog : Catalog) (fields : List String) :
    expandFields layer catalog fields =
      (firstOccurrences (writtenNames layer catalog fields)).filter (· != layer.geometryField) := by
  rw [expandFields, firstOccurrences_filter]
  simp only [any_needsKeys, writtenNames, Layer.keyColumns]

theorem mem_expandFields : name ∈ expandFields layer catalog fields ↔
    name ≠ layer.geometryField ∧
      ((∃ field ∈ fields, ∃ meaning, StandsFor catalog field meaning ∧ name ∈ meaning) ∨
        WantsKeys fields ∧ name ∈ layer.keyColumns) := by
  simp only [standsFor_iff, exists_eq_left']
  rw [expandFields_eq, List.mem_filter, mem_firstOccurrences, writtenNames, List.mem_append,
    List.mem_flatMap, bne_iff_ne, and_comm, or_comm]
  by_cases hkeys : WantsKeys fields <;> simp [hkeys]

theorem nodup_expandFields (layer : Layer) (catalog : Catalog) (fields : List String) :
    (expandFields layer catalog fields).Nodup := by
  rw [expandFields_eq]
  exact (nodup_firstOccurrences _).filter _

theorem expanded (layer : Layer) (catalog : Catalog) (fields : List String)
    (hid : layer.objectIdField ≠ layer.geometryField) :
    Expanded layer catalog fields (expandFields layer catalog fields) where
  nodup := nodup_expandFields layer catalog fields
  mem_iff _ := mem_expandFields
  keys hkeys := by
    rw [expandFields_eq, writtenNames, if_pos hkeys, Layer.keyColumns, firstOccurrences_append,
      List.filter_append, firstOccurrences, List.filter_cons_of_pos (by simpa using hid)]
    refine ⟨_, _, rfl, ?_, ?_⟩
    · exact (List.filter_sublist.trans List.filter_sublist).trans (firstOccurrences_sublist _)
    · intro name hname hgeometry
      rcases List.mem_cons.1 hname with rfl | hsource
      · exact .inl rfl
      · by_cases hname : name = layer.objectIdField
        · exact .inl hname
        · right
          rw [List.mem_filter, List.mem_filter, mem_firstOccurrences]
          exact ⟨⟨hsource, by simpa using hname⟩, by simpa using hgeometry⟩
  order := by
    refine ⟨fields.map (fieldMeaning catalog), ?_, ?_⟩
    · rw [List.forall₂_map_right_iff, List.forall₂_same]
      exact fun field _ => standsFor_iff.2 rfl
    · rw [expandFields_eq]
      exact (pairwise_firstOccurrences _).filter _

/-- The names that fields are replaced by stand for themselves. -/
theorem fieldMeaning_of_mem_expandFields (hkeys : ∀ name ∈ layer.keyColumns, '*' ∉ name.toList)
    (hcatalog : catalog.Starless) (h : name ∈ expandFields layer catalog fields) : fieldMeaning catalog name = [name] := by
  obtain ⟨-, ⟨field, -, meaning, hmeaning, hname⟩ | ⟨-, hkey⟩⟩ := mem_expandFields.1 h
  · cases hmeaning with
    | columns => exact fieldMeaning_of_notMem (hcatalog.columns name hname)
    | @related title related hfound =>
        obtain ⟨columns, hcolumns, hstar⟩ :=
          hcatalog.related related (List.mem_of_find?_eq_some hfound)
        rw [hcolumns, RelatedCatalog.names, RelatedCatalog.ofColumns, List.map_map] at hname
        obtain ⟨column, hcolumn, rfl⟩ := List.mem_map.1 hname
        exact fieldMeaning_qualify (hstar column hcolumn)
    | nothing => cases hname
    | itself hstar hrelated =>
        obtain rfl := List.mem_singleton.1 hname
        exact fieldMeaning_itself hstar hrelated
  · exact fieldMeaning_of_notMem (hkeys name hkey)

/-- Fields that want no keys are replaced by themselves, and want none again. -/
theorem wantsKeys_of_expandFields (h : WantsKeys (expandFields layer catalog fields)) :
    WantsKeys fields := by
  by_contra hkeys
  obtain ⟨name, hname, hwants⟩ := h
  obtain ⟨-, ⟨field, hfield, meaning, hmeaning, hmem⟩ | ⟨hwanted, -⟩⟩ := mem_expandFields.1 hname
  · have hplain : ¬(field = "*" ∨ '.' ∈ field.toList) := fun hwants => hkeys ⟨field, hfield, hwants⟩
    rw [not_or] at hplain
    obtain rfl := (standsFor_iff.1 hmeaning).symm.trans
      (fieldMeaning_eq_self hplain.1 hplain.2 catalog)
    obtain rfl := List.mem_singleton.1 hmem
    exact hkeys ⟨name, hfield, hwants⟩
  · exact hkeys hwanted

theorem expandFields_expandFields (hkeys : ∀ name ∈ layer.keyColumns, '*' ∉ name.toList)
    (hcatalog : catalog.Starless) :
    expandFields layer catalog (expandFields layer catalog fields) =
      expandFields layer catalog fields := by
  have hself : (expandFields layer catalog fields).flatMap (fieldMeaning catalog) =
      expandFields layer catalog fields := by
    rw [List.flatMap_congr (g := fun name => [name]) fun name hname =>
      fieldMeaning_of_mem_expandFields hkeys hcatalog hname, List.flatMap_singleton']
  rw [expandFields_eq layer catalog (expandFields layer catalog fields), writtenNames, hself]
  by_cases hwants : WantsKeys (expandFields layer catalog fields)
  · rw [if_pos hwants, expandFields_eq, writtenNames, if_pos (wantsKeys_of_expandFields hwants),
      filter_firstOccurrences_append]
  · rw [if_neg hwants, List.nil_append, firstOccurrences_of_nodup (nodup_expandFields _ _ _),
      List.filter_eq_self]
    intro name hname
    simpa using (mem_expandFields.1 hname).1

/-- Fields are replaced by the names that they stand for, once and for all: whatever fields are asked
for, to replace the names again changes nothing. -/
theorem expandFields_settled (layer : Layer) (catalog : Catalog) (fields : List String)
    (hid : layer.objectIdField ≠ layer.geometryField)
    (hkeys : ∀ name ∈ layer.keyColumns, '*' ∉ name.toList) (hcatalog : catalog.Starless) :
    Expanded layer catalog fields (expandFields layer catalog fields) ∧
      expandFields layer catalog (expandFields layer catalog fields) =
        expandFields layer catalog fields :=
  ⟨expanded layer catalog fields hid, expandFields_expandFields hkeys hcatalog⟩

namespace Fields

def samples : RelatedCatalog :=
  .ofColumns ⟨"samples", 0, "site_id", "site_id", "db_samples"⟩
    [.ofColumn "db_id" "integer" false, .ofColumn "ph" "double precision" true]

/-- Wells, and the samples that are taken from them. -/
def wells : Layer where
  id := 0
  name := "Wells"
  table := "db_wells"
  kind := .point
  relations := [samples.relation]

def wellsCatalog : Catalog :=
  .ofColumns wells
    [.ofColumn "db_id" "integer" false, .ofColumn "name" "text" true,
      .ofColumn "dbasin_geom" "USER-DEFINED" true] [samples]

theorem starless_wellsCatalog : wellsCatalog.Starless where
  columns := by decide
  related := by
    intro related hrelated
    obtain rfl := List.mem_singleton.1 hrelated
    exact ⟨_, rfl, by decide⟩

theorem expandFields_settled_wells :
    (wells.objectIdField ≠ wells.geometryField ∧
      (∀ name ∈ wells.keyColumns, '*' ∉ name.toList) ∧ wellsCatalog.Starless) ∧
      Expanded wells wellsCatalog ["name", "samples.*", "*"]
        ["db_id", "site_id", "name", "samples.db_id", "samples.ph"] ∧
      expandFields wells wellsCatalog ["db_id", "site_id", "name", "samples.db_id", "samples.ph"] =
        ["db_id", "site_id", "name", "samples.db_id", "samples.ph"] := by
  have hid : wells.objectIdField ≠ wells.geometryField := by decide
  have hkeys : ∀ name ∈ wells.keyColumns, '*' ∉ name.toList := by decide
  exact ⟨⟨hid, hkeys, starless_wellsCatalog⟩,
    expandFields_settled wells wellsCatalog ["name", "samples.*", "*"] hid hkeys
      starless_wellsCatalog⟩

/-- Wells whose column with the object id is called by a star. -/
def starredWells : Layer := { wells with objectIdField := "*" }

/-- Notes on wells, which have the title of the samples. -/
def notes : RelatedCatalog :=
  .ofColumns ⟨"samples", 1, "site_id", "site_id", "db_notes"⟩ [.ofColumn "note" "text" true]

/-- Wells with two relations of one title. -/
def twiceSampledWells : Layer := { wells with relations := [samples.relation, notes.relation] }

def twiceSampledCatalog : Catalog := { wellsCatalog with related := [samples, notes] }

theorem starless_twiceSampledCatalog : twiceSampledCatalog.Starless where
  columns := by decide
  related := by
    intro related hrelated
    rcases List.mem_cons.1 hrelated with rfl | hrelated
    · exact ⟨_, rfl, by decide⟩
    · obtain rfl := List.mem_singleton.1 hrelated
      exact ⟨_, rfl, by decide⟩

/-- A star as the name of the object id's column is replaced again, and of two relations with one
title the columns of the second one are left out. -/
theorem expandFields_not_settled :
    ((starredWells.objectIdField ≠ starredWells.geometryField ∧
        (∀ relation ∈ starredWells.relations, isPlainName relation.title = true ∧
          isPlainName relation.sourceColumn = true) ∧ wellsCatalog.Starless) ∧
      expandFields starredWells wellsCatalog ["samples.ph"] = ["*", "site_id", "samples.ph"] ∧
      expandFields starredWells wellsCatalog ["*", "site_id", "samples.ph"] =
        ["*", "site_id", "db_id", "name", "samples.ph"]) ∧
    ((twiceSampledWells.objectIdField ≠ twiceSampledWells.geometryField ∧
        (∀ relation ∈ twiceSampledWells.relations, isPlainName relation.title = true ∧
          isPlainName relation.sourceColumn = true) ∧ twiceSampledCatalog.Starless) ∧
      notes ∈ twiceSampledCatalog.related ∧ notes.relation.title = "samples" ∧
      "samples.note" ∈ notes.names ∧
      "samples.note" ∉ expandFields twiceSampledWells twiceSampledCatalog ["samples.*"]) := by
  constructor
  · exact ⟨⟨by decide, by decide, starless_wellsCatalog⟩, rfl, rfl⟩
  · exact ⟨⟨by decide, by decide, starless_twiceSampledCatalog⟩, by decide, rfl, by decide,
      by decide⟩

end Fields

end GeoLayers
