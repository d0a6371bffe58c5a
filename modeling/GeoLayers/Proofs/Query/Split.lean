import GeoLayers.Proofs.Dictionary
import GeoLayers.Proofs.Layer
import GeoLayers.Query.Assemble

/-!
What is taken out of a row. A row keeps the values of all names that no relation owns, and for every
relation with columns in the row, in the order of the layer, there is one related row.
-/

namespace GeoLayers

namespace Relation

variable {relation : Relation} {row : Attributes}

theorem find?_columnsIn (column : String) :
    (relation.columnsIn row).find? column = row.find? (relation.qualify column) := by
  have hcolumns : relation.columnsIn row = .ofList (row.entries.filterMap fun entry =>
      (Text.stripStart (relation.qualify "") entry.1).map (·, entry.2)) := rfl
  have hmem {c : String} {v : Json} :
      (c, v) ∈ row.entries.filterMap (fun entry =>
        (Text.stripStart (relation.qualify "") entry.1).map (·, entry.2)) ↔
        (relation.qualify c, v) ∈ row.entries := by
    simp only [List.mem_filterMap, Option.map_eq_some_iff, Prod.mk.injEq, stripStart_qualify]
    constructor
    · rintro ⟨⟨key, value⟩, hentry, _, rfl, rfl, rfl⟩
      exact hentry
    · intro hentry
      exact ⟨_, hentry, c, rfl, rfl, rfl⟩
  apply Option.ext
  intro v
  rw [hcolumns, Dictionary.find?_ofList_eq_some, hmem, Dictionary.mem_entries]
  intro c v v' hv hv'
  rw [hmem, Dictionary.mem_entries] at hv hv'
  exact Option.some.inj (hv.symm.trans hv')

theorem find?_without (key : String) :
    (relation.without row).find? key = if relation.owns key then none else row.find? key := by
  rw [without, Dictionary.find?_filterKeys, owns]
  cases Text.stripStart (relation.qualify "") key <;> rfl

theorem isEmpty_columnsIn :
    (relation.columnsIn row).isEmpty ↔ ∀ column, row.find? (relation.qualify column) = none := by
  simp only [Dictionary.isEmpty_iff_find?, find?_columnsIn]

/-- A row in which a relation has no columns has nothing of it to lose. -/
theorem without_eq_self (h : (relation.columnsIn row).isEmpty) : relation.without row = row := by
  apply Dictionary.ext_find?
  intro key
  rw [find?_without]
  split
  case isTrue howns =>
    obtain ⟨column, rfl⟩ := owns_iff.1 howns
    exact (isEmpty_columnsIn.1 h column).symm
  case isFalse => rfl

theorem qualify_ne_of_notMem {name : String} (h : '.' ∉ name.toList) (column : String) :
    relation.qualify column ≠ name := by
  rintro rfl
  exact h (by simp [toList_qualify])

theorem not_owns_qualify {other : Relation} (hplain : '.' ∉ relation.title.toList)
    (hplain' : '.' ∉ other.title.toList) (hne : relation.title ≠ other.title) (column : String) :
    relation.owns (other.qualify column) = false := by
  rw [Bool.eq_false_iff]
  intro howns
  obtain ⟨column', heq⟩ := owns_iff.1 howns
  have hcut := cutAt_qualify hplain' column
  rw [heq, cutAt_qualify hplain] at hcut
  exact hne (Prod.mk.inj (Option.some.inj hcut)).1

theorem columnsIn_without {other : Relation} (hplain : '.' ∉ relation.title.toList)
    (hplain' : '.' ∉ other.title.toList) (hne : relation.title ≠ other.title) :
    other.columnsIn (relation.without row) = other.columnsIn row := by
  apply Dictionary.ext_find?
  intro column
  rw [find?_columnsIn, find?_columnsIn, find?_without, not_owns_qualify hplain hplain' hne]
  rfl

/-- Of the rest of a row only the value that the related row is joined on is looked at. -/
theorem rowIn?_congr {columns rest rest' : Attributes}
    (h : rest.find? relation.sourceColumn = rest'.find? relation.sourceColumn) :
    relation.rowIn? columns rest = relation.rowIn? columns rest' := by
  rw [rowIn?, rowIn?, h]

/-- Whether a row has columns of a relation. -/
def isIn (relation : Relation) (row : Attributes) : Bool := !(relation.columnsIn row).isEmpty

/-- What is left of a row when the columns of a relation and of those before it are taken out. -/
def restIn (relation : Relation) (relations : List Relation) (row : Attributes) : Attributes :=
  row.filterKeys fun key =>
    !(relations.takeWhile (·.title != relation.title) ++ [relation]).any (·.owns key)

/-- The title of a relation with its related row. -/
def part (relation : Relation) (relations : List Relation) (row : Attributes) :
    String × Option Attributes :=
  (relation.title, relation.rowIn? (relation.columnsIn row) (relation.restIn relations row))

theorem restIn_self (relations : List Relation) :
    relation.restIn (relation :: relations) row = relation.without row := by
  apply Dictionary.ext_find?
  intro key
  rw [restIn, Dictionary.find?_filterKeys, find?_without]
  cases howns : relation.owns key <;> simp [howns]

theorem restIn_cons {first : Relation} (hne : first.title ≠ relation.title)
    (relations : List Relation) :
    relation.restIn (first :: relations) row = relation.restIn relations (first.without row) := by
  have hskip : (first :: relations).takeWhile (·.title != relation.title) =
      first :: relations.takeWhile (·.title != relation.title) :=
    List.takeWhile_cons_of_pos (by simpa using hne)
  apply Dictionary.ext_find?
  intro key
  rw [restIn, restIn, Dictionary.find?_filterKeys, Dictionary.find?_filterKeys, find?_without, hskip,
    List.cons_append, List.any_cons]
  cases first.owns key <;> simp

/-- A value that no relation owns stays in the row. -/
theorem find?_restIn_of_notMem {relations : List Relation} {key : String} (h : '.' ∉ key.toList) :
    (relation.restIn relations row).find? key = row.find? key := by
  rw [restIn, Dictionary.find?_filterKeys]
  apply if_pos
  simp [owns_of_notMem h]

end Relation

namespace SplitRow

variable {relation : Relation}

theorem attributes_takeOut (split : SplitRow) :
    (split.takeOut relation).attributes = relation.without split.attributes := by
  unfold takeOut
  by_cases hempty : (relation.columnsIn split.attributes).isEmpty
  · rw [if_pos hempty, Relation.without_eq_self hempty]
  · rw [if_neg hempty]

theorem related_takeOut (relations : List Relation) (split : SplitRow) :
    (split.takeOut relation).related =
      split.related ++
        if relation.isIn split.attributes then [relation.part (relation :: relations) split.attributes]
        else [] := by
  unfold takeOut Relation.isIn Relation.part
  rw [Relation.restIn_self]
  by_cases hempty : (relation.columnsIn split.attributes).isEmpty
  · simp [hempty]
  · simp [hempty]

/-- What no relation of a list owns stays in a row, and only this. -/
theorem find?_foldl_takeOut (relations : List Relation) (split : SplitRow) (key : String) :
    (relations.foldl takeOut split).attributes.find? key =
      if relations.any (·.owns key) then none else split.attributes.find? key := by
  induction relations generalizing split with
  | nil => rfl
  | cons relation relations ih =>
      rw [List.foldl_cons, ih, attributes_takeOut, Relation.find?_without, List.any_cons]
      cases relation.owns key <;> simp

/-- What several relations with different titles take out of a row. -/
theorem related_foldl_takeOut {relations : List Relation}
    (hplain : ∀ relation ∈ relations, '.' ∉ relation.title.toList)
    (hnodup : (relations.map Relation.title).Nodup) (split : SplitRow) :
    (relations.foldl takeOut split).related = split.related ++
      (relations.filter (·.isIn split.attributes)).map (·.part relations split.attributes) := by
  induction relations generalizing split with
  | nil => simp
  | cons relation relations ih =>
      rw [List.forall_mem_cons] at hplain
      rw [List.map_cons, List.nodup_cons] at hnodup
      obtain ⟨htitle, hplain⟩ := hplain
      obtain ⟨hfresh, hnodup⟩ := hnodup
      -- The later relations find in the rest what they would find in the whole row.
      have hsame : ∀ other ∈ relations,
          other.isIn (relation.without split.attributes) = other.isIn split.attributes ∧
            other.part relations (relation.without split.attributes) =
              other.part (relation :: relations) split.attributes := by
        intro other hother
        have hne : relation.title ≠ other.title :=
          fun heq => hfresh (heq ▸ List.mem_map_of_mem hother)
        have hcolumns : other.columnsIn (relation.without split.attributes) =
            other.columnsIn split.attributes :=
          Relation.columnsIn_without htitle (hplain other hother) hne
        refine ⟨by rw [Relation.isIn, Relation.isIn, hcolumns], ?_⟩
        rw [Relation.part, Relation.part, hcolumns, Relation.restIn_cons hne]
      have hparts : (relations.filter (·.isIn split.attributes)).map
          (·.part relations (relation.without split.attributes)) =
          (relations.filter (·.isIn split.attributes)).map
            (·.part (relation :: relations) split.attributes) :=
        List.map_congr_left fun other hother => (hsame other (List.mem_filter.1 hother).1).2
      rw [List.foldl_cons, ih hplain hnodup, attributes_takeOut, related_takeOut relations,
        List.filter_congr fun other hother => (hsame other hother).1, hparts, List.append_assoc,
        List.filter_cons]
      split <;> rfl

end SplitRow

variable {layer : Layer}

/-- A row of a layer keeps what no relation owns. -/
theorem find?_attributes_ofRow (layer : Layer) (row : Attributes) (key : String) :
    (SplitRow.ofRow layer row).attributes.find? key =
      if layer.relations.any (·.owns key) then none else row.find? key :=
  SplitRow.find?_foldl_takeOut layer.relations ⟨row, []⟩ key

/-- Every relation with columns in a row has one related row of it. -/
theorem related_ofRow (hplain : ∀ relation ∈ layer.relations, '.' ∉ relation.title.toList)
    (hnodup : (layer.relations.map Relation.title).Nodup) (row : Attributes) :
    (SplitRow.ofRow layer row).related =
      (layer.relations.filter (·.isIn row)).map (·.part layer.relations row) :=
  SplitRow.related_foldl_takeOut hplain hnodup ⟨row, []⟩

end GeoLayers
