import GeoLayers.Catalog.Basic
import GeoLayers.Proofs.Registry.Acceptance

/-!
Names in layers that break no rule of the registry. Plain names have no period in them, so the name
of a related column tells the title of its relation and the column apart, and no name of a column is
taken for one of a related column.
-/

namespace GeoLayers

namespace Text

theorem afterStart_eq_some {start cs rest : List Char} :
    afterStart start cs = some rest ↔ cs = start ++ rest := by
  induction start generalizing cs with
  | nil => simp [afterStart, eq_comm]
  | cons s start ih =>
      cases cs with
      | nil => simp [afterStart]
      | cons c cs =>
          rw [afterStart]
          by_cases hc : s = c
          · simp [hc, ih]
          · simp [hc, Ne.symm hc]

theorem stripStart_eq_some {start s rest : String} :
    stripStart start s = some rest ↔ s = start ++ rest := by
  rw [stripStart, Option.map_eq_some_iff]
  constructor
  · rintro ⟨cs, hcs, rfl⟩
    apply String.toList_inj.1
    rw [afterStart_eq_some.1 hcs, String.toList_append, String.toList_ofList]
  · rintro rfl
    exact ⟨rest.toList, afterStart_eq_some.2 String.toList_append, String.ofList_toList⟩

theorem stripEnd_eq_some {tail s rest : String} :
    stripEnd tail s = some rest ↔ s = rest ++ tail := by
  rw [stripEnd, Option.map_eq_some_iff]
  constructor
  · rintro ⟨cs, hcs, rfl⟩
    rw [afterStart_eq_some, List.reverse_eq_iff] at hcs
    rw [← String.toList_inj, hcs]
    simp
  · rintro rfl
    exact ⟨rest.toList.reverse, afterStart_eq_some.2 (by simp), by simp⟩

theorem cutFirst_of_notMem {sep : Char} {cs : List Char} (h : sep ∉ cs) :
    cutFirst sep cs = none := by
  induction cs with
  | nil => rfl
  | cons c cs ih =>
      obtain ⟨hc, hrest⟩ := List.ne_and_not_mem_of_not_mem_cons h
      rw [cutFirst, if_neg (by simpa using Ne.symm hc), ih hrest]
      rfl

theorem notMem_of_cutFirst {sep : Char} {cs : List Char} (h : cutFirst sep cs = none) : sep ∉ cs := by
  induction cs with
  | nil => exact List.not_mem_nil
  | cons c cs ih =>
      rw [cutFirst] at h
      split at h
      case isTrue => cases h
      case isFalse hc =>
        rw [List.mem_cons, not_or]
        exact ⟨fun heq => hc (by simp [heq]), ih (Option.map_eq_none_iff.1 h)⟩

theorem cutFirst_append {sep : Char} {before : List Char} (h : sep ∉ before) (after : List Char) :
    cutFirst sep (before ++ sep :: after) = some (before, after) := by
  induction before with
  | nil => simp [cutFirst]
  | cons c cs ih =>
      obtain ⟨hc, hrest⟩ := List.ne_and_not_mem_of_not_mem_cons h
      rw [List.cons_append, cutFirst, if_neg (by simpa using Ne.symm hc), ih hrest]
      rfl

theorem eq_append_of_cutFirst {sep : Char} {cs before after : List Char}
    (h : cutFirst sep cs = some (before, after)) : cs = before ++ sep :: after := by
  induction cs generalizing before with
  | nil => cases h
  | cons c cs ih =>
      rw [cutFirst] at h
      split at h
      case isTrue heq =>
        cases h
        rw [eq_of_beq heq]
        rfl
      case isFalse =>
        obtain ⟨⟨before, after⟩, hcut, heq⟩ := Option.map_eq_some_iff.1 h
        cases heq
        rw [ih hcut]
        rfl

theorem cutAt_of_notMem {sep : Char} {s : String} (h : sep ∉ s.toList) : cutAt sep s = none := by
  rw [cutAt, cutFirst_of_notMem h]
  rfl

theorem notMem_of_cutAt {sep : Char} {s : String} (h : cutAt sep s = none) : sep ∉ s.toList :=
  notMem_of_cutFirst (Option.map_eq_none_iff.1 h)

theorem eq_append_of_cutAt {sep : Char} {s before after : String}
    (h : cutAt sep s = some (before, after)) : s.toList = before.toList ++ sep :: after.toList := by
  rw [cutAt, Option.map_eq_some_iff] at h
  obtain ⟨⟨before, after⟩, hcut, heq⟩ := h
  cases heq
  rw [String.toList_ofList, String.toList_ofList, eq_append_of_cutFirst hcut]

theorem notMem_before_of_cutFirst {sep : Char} {cs before after : List Char}
    (h : cutFirst sep cs = some (before, after)) : sep ∉ before := by
  induction cs generalizing before with
  | nil => cases h
  | cons c cs ih =>
      rw [cutFirst] at h
      split at h
      case isTrue =>
        cases h
        exact List.not_mem_nil
      case isFalse hc =>
        obtain ⟨⟨before, after⟩, hcut, heq⟩ := Option.map_eq_some_iff.1 h
        cases heq
        rw [List.mem_cons, not_or]
        exact ⟨fun heq => hc (by simp [heq]), ih hcut⟩

/-- A text is cut at the first occurrence of a character. -/
theorem cutAt_eq_some_iff {sep : Char} {s before after : String} :
    cutAt sep s = some (before, after) ↔
      s.toList = before.toList ++ sep :: after.toList ∧ sep ∉ before.toList := by
  constructor
  · intro h
    refine ⟨eq_append_of_cutAt h, ?_⟩
    obtain ⟨⟨before, after⟩, hcut, heq⟩ := Option.map_eq_some_iff.1 h
    cases heq
    rw [String.toList_ofList]
    exact notMem_before_of_cutFirst hcut
  · rintro ⟨hlist, hbefore⟩
    rw [cutAt, hlist, cutFirst_append hbefore]
    simp

end Text

/-- A plain name has no character in it but letters, digits and underscores. -/
theorem notMem_of_isPlainName {name : String} (h : isPlainName name = true) {c : Char}
    (hc : (c.isAlphanum || c == '_') = false) : c ∉ name.toList := by
  unfold isPlainName at h
  split at h
  · cases h
  case h_2 first rest heq =>
    rw [heq]
    rw [Bool.and_eq_true, List.all_eq_true] at h
    obtain ⟨hfirst, hrest⟩ := h
    intro hmem
    rcases List.mem_cons.1 hmem with rfl | hmem
    · rw [Char.isAlphanum, Bool.or_eq_false_iff, Bool.or_eq_false_iff] at hc
      rw [hc.1.1, hc.2] at hfirst
      cases hfirst
    · rw [hrest _ hmem] at hc
      cases hc

namespace Relation

variable {relation : Relation}

/-- Whether a name is that of a column of the related table. -/
def owns (relation : Relation) (name : String) : Bool :=
  (Text.stripStart (relation.qualify "") name).isSome

theorem stripStart_qualify {name column : String} :
    Text.stripStart (relation.qualify "") name = some column ↔ name = relation.qualify column := by
  simp [Text.stripStart_eq_some, qualify]

theorem owns_iff {name : String} : relation.owns name ↔ ∃ column, name = relation.qualify column := by
  simp only [owns, Option.isSome_iff_exists, stripStart_qualify]

theorem toList_qualify (column : String) :
    (relation.qualify column).toList = relation.title.toList ++ '.' :: column.toList := by
  simp [qualify, String.toList_append]

theorem owns_of_notMem {name : String} (h : '.' ∉ name.toList) : relation.owns name = false := by
  rw [Bool.eq_false_iff]
  intro howns
  obtain ⟨column, rfl⟩ := owns_iff.1 howns
  exact h (by simp [toList_qualify])

/-- A name that is cut at the title of a relation is the name of one of its columns. -/
theorem owns_of_cutAt {name column : String}
    (h : Text.cutAt '.' name = some (relation.title, column)) : relation.owns name := by
  refine owns_iff.2 ⟨column, ?_⟩
  rw [← String.toList_inj, toList_qualify, Text.eq_append_of_cutAt h]

theorem cutAt_qualify (h : '.' ∉ relation.title.toList) (column : String) :
    Text.cutAt '.' (relation.qualify column) = some (relation.title, column) := by
  rw [Text.cutAt, toList_qualify, Text.cutFirst_append h]
  simp

end Relation

namespace Layer

variable {layer : Layer}

theorem titles_nodup (h : layer.faults = []) : (layer.relations.map Relation.title).Nodup :=
  (faults_eq_nil_iff.1 h).titles

theorem title_plain (h : layer.faults = []) {relation : Relation}
    (hmem : relation ∈ layer.relations) : '.' ∉ relation.title.toList :=
  notMem_of_isPlainName (isPlainName_iff.2 ((faults_eq_nil_iff.1 h).relations relation hmem).title)
    (by decide)

theorem sourceColumn_plain (h : layer.faults = []) {relation : Relation}
    (hmem : relation ∈ layer.relations) : '.' ∉ relation.sourceColumn.toList :=
  notMem_of_isPlainName
    (isPlainName_iff.2 ((faults_eq_nil_iff.1 h).relations relation hmem).sourceColumn) (by decide)

theorem title_ne_sourceAlias (h : layer.faults = []) {relation : Relation}
    (hmem : relation ∈ layer.relations) : relation.title ≠ sourceAlias :=
  ((faults_eq_nil_iff.1 h).relations relation hmem).not_reserved

theorem objectIdField_plain (h : layer.faults = []) : isPlainName layer.objectIdField = true :=
  isPlainName_iff.2 (faults_eq_nil_iff.1 h).objectIdField

theorem geometryField_plain (h : layer.faults = []) : isPlainName layer.geometryField = true :=
  isPlainName_iff.2 (faults_eq_nil_iff.1 h).geometryField

end Layer

end GeoLayers
