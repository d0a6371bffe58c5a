import GeoLayers.Proofs.Dictionary
import GeoLayers.Proofs.Layer

/-!
What comes of the check of names. It looks at the names without the blanks around them and without
any quotes. Those that are no columns of the layer are names of related columns, which may be refused
as such, or else they are unknown; an error tells exactly the names that are at fault. The order of
the names does not count, and neither does it whether a name is given again.
-/

namespace GeoLayers

namespace Catalog

variable {catalog : Catalog} {names : List String} {includeRelated : Bool} {name : String}
  {result : Except Error Unit}

theorem hasField_iff : catalog.hasField name = true ↔ name ∈ catalog.fields.map (·.name) := by
  simp [hasField, field?]

theorem name_of_field? {field : Field} (h : catalog.field? name = some field) :
    field.name = name := by
  rw [field?] at h
  have hname := List.find?_some h
  exact eq_of_beq hname

theorem related?_eq_some {title : String} {related : RelatedCatalog}
    (h : catalog.related? title = some related) :
    related ∈ catalog.related ∧ related.relation.title = title := by
  rw [related?] at h
  have htitle := List.find?_some h
  exact ⟨List.mem_of_find?_eq_some h, eq_of_beq htitle⟩

/-- One of the names is, as it is looked up, neither empty nor a star nor a column of the layer. -/
structure Foreign (catalog : Catalog) (names : List String) (name : String) : Prop where
  given : ∃ raw ∈ names, bareName raw = name
  nonempty : name ≠ ""
  not_star : name ≠ "*"
  not_column : name ∉ catalog.fields.map (·.name)

/-- A name is the title of a relation, a period, and one of the relation's columns or a star. The
title ends at the first period, and of several relations with the title the first one counts. -/
def IsRelated (catalog : Catalog) (name : String) : Prop :=
  ∃ title column related, name = title ++ "." ++ column ∧ '.' ∉ title.toList ∧
    catalog.related? title = some related ∧ (column = "*" ∨ name ∈ related.names)

/-- A name is the title of any relation, a period, and one of the relation's columns or a star. -/
def IsOfSomeRelation (catalog : Catalog) (name : String) : Prop :=
  ∃ related ∈ catalog.related, ∃ column, name = related.relation.qualify column ∧
    (column = "*" ∨ name ∈ related.names)

/-- What can come of a check of names. -/
inductive NamesChecked (catalog : Catalog) (names : List String) (includeRelated : Bool) :
    Except Error Unit → Prop
  | passed (h : (∀ name, ¬catalog.Foreign names name) ∨
        includeRelated = true ∧ ∀ name, catalog.Foreign names name → catalog.IsRelated name) :
      NamesChecked catalog names includeRelated (.ok ())
  /-- Related columns are not wanted, and some are named. -/
  | related {fields : List String} (hrefused : includeRelated = false) (hsome : fields ≠ [])
      (hincreasing : fields.Pairwise (· < ·))
      (hfields : ∀ name, name ∈ fields ↔ catalog.Foreign names name ∧ catalog.IsRelated name) :
      NamesChecked catalog names includeRelated (.error (.relatedFields fields))
  /-- No related column is refused, and some names are those of no column. -/
  | unknown {fields : List String}
      (hallowed : includeRelated = true ∨
        ∀ name, catalog.Foreign names name → ¬catalog.IsRelated name)
      (hsome : fields ≠ []) (hincreasing : fields.Pairwise (· < ·))
      (hfields : ∀ name, name ∈ fields ↔ catalog.Foreign names name ∧ ¬catalog.IsRelated name) :
      NamesChecked catalog names includeRelated (.error (.unknownFields fields))

/-! ### The names that the check sorts out -/

theorem mem_unknownNames : name ∈ catalog.unknownNames names ↔ catalog.Foreign names name := by
  have htest : (name != "" && name != "*" && !catalog.hasField name) = true ↔
      name ≠ "" ∧ name ≠ "*" ∧ name ∉ catalog.fields.map (·.name) := by
    rw [← hasField_iff]
    simp [and_assoc]
  rw [unknownNames, mem_sortedTexts, List.mem_filter, List.mem_map, htest]
  exact ⟨fun ⟨hgiven, hempty, hstar, hcolumn⟩ => ⟨hgiven, hempty, hstar, hcolumn⟩,
    fun h => ⟨h.given, h.nonempty, h.not_star, h.not_column⟩⟩

theorem increasing_unknownNames : (catalog.unknownNames names).Pairwise (· < ·) :=
  Dictionary.increasing_keys _

theorem cutAt_period_eq_some_iff {title column : String} :
    Text.cutAt '.' name = some (title, column) ↔
      name = title ++ "." ++ column ∧ '.' ∉ title.toList := by
  rw [Text.cutAt_eq_some_iff, ← String.toList_inj]
  simp

theorem isRelatedName_iff : catalog.isRelatedName name = true ↔ catalog.IsRelated name := by
  unfold isRelatedName
  constructor
  · intro h
    split at h
    case h_1 => cases h
    case h_2 title column hcut =>
      split at h
      case h_1 => cases h
      case h_2 related hfound =>
        obtain ⟨hname, htitle⟩ := cutAt_period_eq_some_iff.1 hcut
        exact ⟨title, column, related, hname, htitle, hfound, by simpa using h⟩
  · rintro ⟨title, column, related, hname, htitle, hfound, hcolumn⟩
    rw [cutAt_period_eq_some_iff.2 ⟨hname, htitle⟩]
    dsimp only
    rw [hfound]
    simpa using hcolumn

/-- Names in order are those of the unknown ones that pass a test, if they have the same members. -/
theorem filter_unknownNames {fields : List String} {test : String → Bool}
    (hincreasing : fields.Pairwise (· < ·))
    (hfields : ∀ name, name ∈ fields ↔ catalog.Foreign names name ∧ test name = true) :
    (catalog.unknownNames names).filter test = fields := by
  apply Dictionary.eq_of_increasing (increasing_unknownNames.filter _) hincreasing
  intro name
  rw [List.mem_filter, mem_unknownNames, hfields]

theorem filter_unknownNames_eq_nil {test : String → Bool} :
    (catalog.unknownNames names).filter test = [] ↔
      ∀ name, catalog.Foreign names name → ¬test name = true := by
  simp only [List.filter_eq_nil_iff, mem_unknownNames]

/-! ### The outcome -/

/-- The outcome of a check by the two kinds of names that it can fail for. -/
theorem checkNames_eq : catalog.checkNames names includeRelated =
    let related := (catalog.unknownNames names).filter catalog.isRelatedName
    let invalid := (catalog.unknownNames names).filter fun name => !catalog.isRelatedName name
    if includeRelated = false ∧ related ≠ [] then .error (.relatedFields related)
    else if invalid ≠ [] then .error (.unknownFields invalid)
    else .ok () := by
  simp [checkNames]

theorem NamesChecked.eq (h : NamesChecked catalog names includeRelated result) :
    catalog.checkNames names includeRelated = result := by
  have hinvalid {name : String} : (!catalog.isRelatedName name) = true ↔ ¬catalog.IsRelated name := by
    rw [← isRelatedName_iff]
    simp
  rw [checkNames_eq]
  dsimp only
  cases h with
  | passed h =>
      have hrelated : ¬(includeRelated = false ∧
          (catalog.unknownNames names).filter catalog.isRelatedName ≠ []) := by
        rintro ⟨hrefused, hsome⟩
        rcases h with hnone | ⟨hwanted, -⟩
        · exact hsome (filter_unknownNames_eq_nil.2 fun name hname => absurd hname (hnone name))
        · exact Bool.noConfusion (hrefused.symm.trans hwanted)
      have hknown : (catalog.unknownNames names).filter
          (fun name => !catalog.isRelatedName name) = [] := by
        rw [filter_unknownNames_eq_nil]
        intro name hname
        rcases h with hnone | ⟨-, hall⟩
        · exact absurd hname (hnone name)
        · rw [hinvalid, Classical.not_not]
          exact hall name hname
      rw [if_neg hrelated, hknown, if_neg (Classical.not_not.2 rfl)]
  | @related fields hrefused hsome hincreasing hfields =>
      have hlist : (catalog.unknownNames names).filter catalog.isRelatedName = fields :=
        filter_unknownNames hincreasing fun name => by rw [hfields, isRelatedName_iff]
      rw [hlist, if_pos ⟨hrefused, hsome⟩]
  | @unknown fields hallowed hsome hincreasing hfields =>
      have hrelated : ¬(includeRelated = false ∧
          (catalog.unknownNames names).filter catalog.isRelatedName ≠ []) := by
        rintro ⟨hrefused, hsome⟩
        rcases hallowed with hwanted | hnone
        · exact Bool.noConfusion (hrefused.symm.trans hwanted)
        · apply hsome
          rw [filter_unknownNames_eq_nil]
          intro name hname
          rw [isRelatedName_iff]
          exact hnone name hname
      have hlist : (catalog.unknownNames names).filter
          (fun name => !catalog.isRelatedName name) = fields :=
        filter_unknownNames hincreasing fun name => by rw [hfields, hinvalid]
      rw [if_neg hrelated, hlist, if_pos hsome]

theorem namesChecked (catalog : Catalog) (names : List String) (includeRelated : Bool) :
    NamesChecked catalog names includeRelated (catalog.checkNames names includeRelated) := by
  have hmem (test : String → Bool) (name : String) :
      name ∈ (catalog.unknownNames names).filter test ↔
        catalog.Foreign names name ∧ test name = true := by
    rw [List.mem_filter, mem_unknownNames]
  rw [checkNames_eq]
  dsimp only
  split
  case isTrue h =>
    refine .related h.1 h.2 (increasing_unknownNames.filter _) fun name => ?_
    rw [hmem, isRelatedName_iff]
  case isFalse hallowed =>
    have hallowed : includeRelated = true ∨
        ∀ name, catalog.Foreign names name → ¬catalog.IsRelated name := by
      rw [Classical.not_and_iff_not_or_not, Bool.not_eq_false, Classical.not_not,
        filter_unknownNames_eq_nil] at hallowed
      simpa only [isRelatedName_iff] using hallowed
    split
    case isTrue hsome =>
      refine .unknown hallowed hsome (increasing_unknownNames.filter _) fun name => ?_
      rw [hmem, ← isRelatedName_iff]
      simp
    case isFalse hnone =>
      rw [Classical.not_not, filter_unknownNames_eq_nil] at hnone
      simp only [Bool.not_eq_true', Bool.not_eq_false, isRelatedName_iff] at hnone
      refine .passed ?_
      rcases hallowed with hwanted | hunrelated
      · exact .inr ⟨hwanted, hnone⟩
      · exact .inl fun name hname => hunrelated name hname (hnone name hname)

/-- What the check of names lets pass. -/
def Passes (catalog : Catalog) (includeRelated : Bool) (name : String) : Prop :=
  bareName name = "" ∨ bareName name = "*" ∨ catalog.hasField (bareName name) = true ∨
    includeRelated = true ∧ catalog.isRelatedName (bareName name) = true

/-- Names pass the check if each of them does. -/
theorem checkNames_eq_ok_iff : catalog.checkNames names includeRelated = .ok () ↔
    ∀ name ∈ names, catalog.Passes includeRelated name := by
  have hforeign {name : String} (hname : name ∈ names) : catalog.Foreign names (bareName name) ↔
      bareName name ≠ "" ∧ bareName name ≠ "*" ∧ catalog.hasField (bareName name) = false := by
    rw [Bool.eq_false_iff, ne_eq, ne_eq, ne_eq, hasField_iff]
    exact ⟨fun h => ⟨h.nonempty, h.not_star, h.not_column⟩,
      fun ⟨hempty, hstar, hcolumn⟩ => ⟨⟨name, hname, rfl⟩, hempty, hstar, hcolumn⟩⟩
  constructor
  · intro h name hname
    have hchecked := namesChecked catalog names includeRelated
    rw [h] at hchecked
    cases hchecked with
    | passed h =>
        by_cases hname' : catalog.Foreign names (bareName name)
        · rcases h with hnone | ⟨hwanted, hall⟩
          · exact absurd hname' (hnone _)
          · exact .inr (.inr (.inr ⟨hwanted, isRelatedName_iff.2 (hall _ hname')⟩))
        · simp only [hforeign hname, Classical.not_and_iff_not_or_not, Classical.not_not,
            Bool.not_eq_false, ne_eq] at hname'
          rcases hname' with hempty | hstar | hcolumn
          · exact .inl hempty
          · exact .inr (.inl hstar)
          · exact .inr (.inr (.inl hcolumn))
  · intro h
    have hall : ∀ name, catalog.Foreign names name →
        includeRelated = true ∧ catalog.IsRelated name := by
      intro name hname
      obtain ⟨raw, hraw, rfl⟩ := hname.given
      obtain ⟨hempty, hstar, hcolumn⟩ := (hforeign hraw).1 hname
      rcases h raw hraw with heq | heq | hfield | ⟨hwanted, hrelated⟩
      · exact absurd heq hempty
      · exact absurd heq hstar
      · exact Bool.noConfusion (hcolumn.symm.trans hfield)
      · exact ⟨hwanted, isRelatedName_iff.1 hrelated⟩
    apply NamesChecked.eq
    apply NamesChecked.passed
    by_cases hsome : ∃ name, catalog.Foreign names name
    · obtain ⟨name, hname⟩ := hsome
      exact .inr ⟨(hall name hname).1, fun name hname => (hall name hname).2⟩
    · exact .inl (not_exists.1 hsome)

/-- The members of a list of names decide what comes of its check. -/
theorem checkNames_congr {others : List String} (h : ∀ name, name ∈ others ↔ name ∈ names) :
    catalog.checkNames others includeRelated = catalog.checkNames names includeRelated := by
  have hunknown : catalog.unknownNames others = catalog.unknownNames names := by
    apply Dictionary.eq_of_increasing increasing_unknownNames increasing_unknownNames
    intro name
    have hgiven : (∃ raw ∈ others, bareName raw = name) ↔ ∃ raw ∈ names, bareName raw = name := by
      simp only [h]
    rw [mem_unknownNames, mem_unknownNames]
    exact ⟨fun hname => { hname with given := hgiven.1 hname.given },
      fun hname => { hname with given := hgiven.2 hname.given }⟩
  rw [checkNames_eq, checkNames_eq, hunknown]

/-- With titles that are told apart, and apart from their columns, every relation is looked at. -/
theorem isRelated_iff_isOfSomeRelation
    (hnodup : (catalog.related.map (·.relation.title)).Nodup)
    (hperiod : ∀ related ∈ catalog.related, '.' ∉ related.relation.title.toList) :
    catalog.IsRelated name ↔ catalog.IsOfSomeRelation name := by
  constructor
  · rintro ⟨title, column, related, rfl, -, hfound, hcolumn⟩
    obtain ⟨hmem, rfl⟩ := related?_eq_some hfound
    exact ⟨related, hmem, column, rfl, hcolumn⟩
  · rintro ⟨related, hmem, column, rfl, hcolumn⟩
    have hfound : catalog.related? related.relation.title = some related :=
      (find?_key_eq_some_iff hnodup).2 ⟨hmem, rfl⟩
    exact ⟨related.relation.title, column, related, rfl, hperiod related hmem, hfound, hcolumn⟩

/-- A check blames exactly the names that are at fault, in whatever order and however often the names
are given. Names of related columns are those of any relation, if the titles of the relations have no
period and no two relations have one title. -/
theorem checkNames_blames (catalog : Catalog) (names : List String) (includeRelated : Bool) :
    (∀ result, catalog.checkNames names includeRelated = result ↔
        NamesChecked catalog names includeRelated result) ∧
      (∀ others : List String, (∀ name, name ∈ others ↔ name ∈ names) →
        catalog.checkNames others includeRelated = catalog.checkNames names includeRelated) ∧
      ((catalog.related.map (·.relation.title)).Nodup →
        (∀ related ∈ catalog.related, '.' ∉ related.relation.title.toList) →
        ∀ name, catalog.IsRelated name ↔ catalog.IsOfSomeRelation name) := by
  refine ⟨fun result => ⟨?_, NamesChecked.eq⟩, fun others h => checkNames_congr h, ?_⟩
  · rintro rfl
    exact namesChecked catalog names includeRelated
  · intro hnodup hperiod name
    exact isRelated_iff_isOfSomeRelation hnodup hperiod

/-- Wells and the samples that are taken from them. -/
def wellsWithSamples : Catalog where
  fields := [.ofColumn "db_id" "integer" false, .ofColumn "depth" "double precision" true]
  related := [.ofColumns ⟨"samples", 0, "db_id", "well_id", "db_samples"⟩
    [.ofColumn "ph" "double precision" true]]

theorem checkNames_blames_wells :
    NamesChecked wellsWithSamples ["samples.ph", " dept ", "\"depth\""] true
        (.error (.unknownFields ["dept"])) ∧
      wellsWithSamples.checkNames ["\"depth\"", " dept ", "samples.ph", " dept "] true =
        wellsWithSamples.checkNames ["samples.ph", " dept ", "\"depth\""] true ∧
      ∀ name, wellsWithSamples.IsRelated name ↔ wellsWithSamples.IsOfSomeRelation name := by
  obtain ⟨houtcome, horder, hrelated⟩ :=
    checkNames_blames wellsWithSamples ["samples.ph", " dept ", "\"depth\""] true
  refine ⟨(houtcome _).1 ?_, horder _ ?_, hrelated ?_ ?_⟩
  · rfl
  · intro name
    simp only [List.mem_cons]
    grind
  · decide
  · decide

/-- Wells with two relations of one title, and one with a period in its title. -/
def crowdedWells : Catalog where
  fields := wellsWithSamples.fields
  related := wellsWithSamples.related ++
    [.ofColumns ⟨"samples", 1, "db_id", "well_id", "db_notes"⟩ [.ofColumn "note" "text" true],
      .ofColumns ⟨"lab.logs", 2, "db_id", "well_id", "db_logs"⟩ [.ofColumn "note" "text" true]]

/-- A relation is overlooked behind another one with its title, and if its title has a period: names
of its columns are told to be unknown. -/
theorem some_relations_overlooked :
    (∀ name, crowdedWells.Foreign ["samples.note", "lab.logs.note"] name →
        crowdedWells.IsOfSomeRelation name) ∧
      crowdedWells.checkNames ["samples.note", "lab.logs.note"] true =
        .error (.unknownFields ["lab.logs.note", "samples.note"]) := by
  constructor
  · rintro name ⟨⟨raw, hraw, rfl⟩, -, -, -⟩
    simp only [List.mem_cons, List.not_mem_nil, or_false] at hraw
    rcases hraw with rfl | rfl
    · refine ⟨.ofColumns ⟨"samples", 1, "db_id", "well_id", "db_notes"⟩
        [.ofColumn "note" "text" true], ?_, "note", ?_, .inr ?_⟩ <;> decide
    · refine ⟨.ofColumns ⟨"lab.logs", 2, "db_id", "well_id", "db_logs"⟩
        [.ofColumn "note" "text" true], ?_, "note", ?_, .inr ?_⟩ <;> decide
  · rfl

end Catalog

end GeoLayers
