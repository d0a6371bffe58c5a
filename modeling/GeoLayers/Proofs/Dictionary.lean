import GeoLayers.Catalog.Basic

/-!
The keys of a map that is built from entries, the values that are looked up in it, and the texts of
a list in order. A map is determined by what is looked up in it.
-/

namespace GeoLayers

namespace Dictionary

variable {α : Type}

instance (entries : List (String × α)) : Decidable (Increasing entries) :=
  inferInstanceAs (Decidable (entries.Pairwise fun a b => a.1 < b.1))

theorem mem_map_fst_insertEntry {key k : String} {value : α} {entries : List (String × α)} :
    k ∈ (insertEntry key value entries).map Prod.fst ↔ k = key ∨ k ∈ entries.map Prod.fst := by
  induction entries with
  | nil => simp [insertEntry]
  | cons entry rest ih =>
      obtain ⟨k', v⟩ := entry
      simp only [insertEntry]
      split
      · simp
      · split
        case isTrue heq => simp [heq]
        case isFalse => simp only [List.map_cons, List.mem_cons, ih, or_left_comm]

theorem mem_keys_insert {d : Dictionary α} {key k : String} {value : α} :
    k ∈ (d.insert key value).keys ↔ k = key ∨ k ∈ d.keys :=
  mem_map_fst_insertEntry

theorem mem_keys_foldl_insert {entries : List (String × α)} {d : Dictionary α} {k : String} :
    k ∈ (entries.foldl (fun d (key, value) => d.insert key value) d).keys ↔
      k ∈ entries.map Prod.fst ∨ k ∈ d.keys := by
  induction entries generalizing d with
  | nil => simp
  | cons entry rest ih =>
      simp only [List.foldl_cons, ih, mem_keys_insert, List.map_cons, List.mem_cons, or_left_comm,
        or_assoc]

/-- A map built from entries has exactly their keys. -/
theorem mem_keys_ofList {entries : List (String × α)} {k : String} :
    k ∈ (ofList entries).keys ↔ k ∈ entries.map Prod.fst := by
  have hempty : k ∉ (empty : Dictionary α).keys := List.not_mem_nil
  exact mem_keys_foldl_insert.trans (or_iff_left hempty)

theorem lookup_of_notMem {entries : List (String × α)} {k : String}
    (h : k ∉ entries.map Prod.fst) : entries.lookup k = none := by
  rw [List.lookup_eq_none_iff]
  intro entry hentry
  rw [bne_iff_ne]
  rintro rfl
  exact h (List.mem_map_of_mem (f := Prod.fst) hentry)

theorem lookup_eq_some_of_nodup {entries : List (String × α)} (h : (entries.map Prod.fst).Nodup)
    {k : String} {v : α} : entries.lookup k = some v ↔ (k, v) ∈ entries := by
  induction entries with
  | nil => simp
  | cons entry rest ih =>
      obtain ⟨key, value⟩ := entry
      rw [List.map_cons, List.nodup_cons] at h
      obtain ⟨hfresh, hnodup⟩ := h
      rw [lookup_cons_eq_ite, List.mem_cons]
      split
      case isTrue heq =>
        subst heq
        have hnot : (k, v) ∉ rest := fun hmem => hfresh (List.mem_map.2 ⟨(k, v), hmem, rfl⟩)
        simp [hnot, eq_comm]
      case isFalse hne =>
        rw [ih hnodup]
        simp [hne]

/-- Texts in strict order are different from each other. -/
theorem nodup_of_increasing {xs : List String} (h : xs.Pairwise (· < ·)) : xs.Nodup := by
  apply h.imp
  rintro x _ hlt rfl
  exact String.lt_irrefl x hlt

theorem increasing_keys (d : Dictionary α) : d.keys.Pairwise (· < ·) :=
  List.pairwise_map.2 d.increasing

theorem nodup_keys (d : Dictionary α) : (d.entries.map Prod.fst).Nodup :=
  nodup_of_increasing d.increasing_keys

/-- The entries of a map are what is looked up in it. -/
theorem mem_entries {d : Dictionary α} {k : String} {v : α} :
    (k, v) ∈ d.entries ↔ d.find? k = some v :=
  (lookup_eq_some_of_nodup d.nodup_keys).symm

/-- Entries of a map are their keys with what is looked up for them. -/
theorem eq_map_find? {d : Dictionary α} {entries : List (String × α)} (default : α)
    (h : ∀ entry ∈ entries, entry ∈ d.entries) :
    entries = (entries.map Prod.fst).map fun key => (key, (d.find? key).getD default) := by
  have hself : ∀ entry ∈ entries, (entry.1, (d.find? entry.1).getD default) = entry := by
    rintro ⟨key, value⟩ hentry
    rw [mem_entries.1 (h _ hentry), Option.getD_some]
  rw [List.map_map]
  exact ((List.map_congr_left hself).trans (List.map_id' entries)).symm

theorem ext_find? {a b : Dictionary α} (h : ∀ k, a.find? k = b.find? k) : a = b := by
  have hnodup (d : Dictionary α) : d.entries.Nodup :=
    List.Pairwise.of_map Prod.fst (fun p q hne heq => hne (congrArg Prod.fst heq)) d.nodup_keys
  have hperm : a.entries.Perm b.entries := by
    rw [List.perm_ext_iff_of_nodup (hnodup a) (hnodup b)]
    rintro ⟨k, v⟩
    rw [mem_entries, mem_entries, h]
  apply ext_entries
  exact hperm.eq_of_pairwise
    (fun p q _ _ hpq hqp => absurd (String.lt_trans hpq hqp) (String.lt_irrefl _))
    a.increasing b.increasing

theorem contains_iff_mem_keys {d : Dictionary α} {k : String} : d.contains k = true ↔ k ∈ d.keys := by
  rw [contains, Option.isSome_iff_exists, keys, List.mem_map]
  constructor
  · rintro ⟨v, hv⟩
    exact ⟨(k, v), mem_entries.2 hv, rfl⟩
  · rintro ⟨⟨_, v⟩, hmem, rfl⟩
    exact ⟨v, mem_entries.1 hmem⟩

/-- Texts in strict order are determined by which texts they are. -/
theorem eq_of_increasing {xs ys : List String} (hxs : xs.Pairwise (· < ·))
    (hys : ys.Pairwise (· < ·)) (h : ∀ x, x ∈ xs ↔ x ∈ ys) : xs = ys := by
  have hperm : xs.Perm ys :=
    (List.perm_ext_iff_of_nodup (nodup_of_increasing hxs) (nodup_of_increasing hys)).2 h
  exact hperm.eq_of_pairwise
    (fun _ _ _ _ hlt hgt => absurd (String.lt_trans hlt hgt) (String.lt_irrefl _)) hxs hys

/-- Maps with the same keys have them in the same order. -/
theorem keys_eq_of_contains {a b : Dictionary α} (h : ∀ k, a.contains k = b.contains k) :
    a.keys = b.keys := by
  apply eq_of_increasing a.increasing_keys b.increasing_keys
  intro k
  rw [← contains_iff_mem_keys, ← contains_iff_mem_keys, h]

theorem find?_filterKeys (d : Dictionary α) (test : String → Bool) (k : String) :
    (d.filterKeys test).find? k = if test k then d.find? k else none := by
  apply Option.ext
  intro v
  rw [← mem_entries]
  have hfilter : (k, v) ∈ (d.filterKeys test).entries ↔ (k, v) ∈ d.entries ∧ test k :=
    List.mem_filter
  rw [hfilter, mem_entries]
  cases test k <;> simp

theorem find?_erase (d : Dictionary α) (key k : String) :
    (d.erase key).find? k = if k = key then none else d.find? k := by
  rw [erase, find?_filterKeys]
  by_cases hk : k = key <;> simp [hk]

theorem isEmpty_iff_find? {d : Dictionary α} : d.isEmpty ↔ ∀ k, d.find? k = none := by
  rw [isEmpty, List.isEmpty_iff, List.eq_nil_iff_forall_not_mem]
  constructor
  · intro hnone k
    apply Option.eq_none_iff_forall_ne_some.2
    intro v hv
    exact hnone (k, v) (mem_entries.2 hv)
  · rintro hnone ⟨k, v⟩ hmem
    rw [mem_entries, hnone] at hmem
    cases hmem

theorem mem_of_find?_foldl_insert {entries : List (String × α)} {d : Dictionary α} {k : String}
    {v : α} (h : (entries.foldl (fun d (key, value) => d.insert key value) d).find? k = some v) :
    (k, v) ∈ entries ∨ d.find? k = some v := by
  induction entries generalizing d with
  | nil => exact .inr h
  | cons entry rest ih =>
      obtain ⟨key, value⟩ := entry
      rcases ih h with hmem | hfound
      · exact .inl (List.mem_cons_of_mem _ hmem)
      · rw [find?_insert] at hfound
        split at hfound
        case isTrue heq =>
          obtain rfl := Option.some.inj hfound
          exact .inl (heq ▸ List.mem_cons_self)
        case isFalse => exact .inr hfound

/-- What is looked up in a map built from entries, if no two of them give one key different
values. -/
theorem find?_ofList_eq_some {entries : List (String × α)}
    (h : ∀ k v v', (k, v) ∈ entries → (k, v') ∈ entries → v = v') {k : String} {v : α} :
    (ofList entries).find? k = some v ↔ (k, v) ∈ entries := by
  have hsound {v : α} (hfound : (ofList entries).find? k = some v) : (k, v) ∈ entries := by
    rcases mem_of_find?_foldl_insert hfound with hmem | hempty
    · exact hmem
    · cases hempty
  refine ⟨hsound, fun hmem => ?_⟩
  have hkey : k ∈ (ofList entries).keys := mem_keys_ofList.2 (List.mem_map_of_mem (f := Prod.fst) hmem)
  obtain ⟨⟨_, v'⟩, hentry, rfl⟩ := List.mem_map.1 hkey
  have hfound := mem_entries.1 hentry
  rwa [h _ v v' hmem (hsound hfound)]

/-- A map with every value replaced. -/
def map {β : Type} (f : α → β) (d : Dictionary α) : Dictionary β where
  entries := d.entries.map fun entry => (entry.1, f entry.2)
  increasing := List.pairwise_map.2 (d.increasing.imp id)

/-- A map is what is built from its entries. -/
theorem ofList_entries (d : Dictionary α) : ofList d.entries = d := by
  have hunique : ∀ k v v', (k, v) ∈ d.entries → (k, v') ∈ d.entries → v = v' := by
    intro k v v' hv hv'
    exact Option.some.inj ((mem_entries.1 hv).symm.trans (mem_entries.1 hv'))
  apply ext_find?
  intro k
  apply Option.ext
  intro v
  rw [find?_ofList_eq_some hunique, mem_entries]

theorem entries_ofList {entries : List (String × α)} (h : Increasing entries) :
    (ofList entries).entries = entries :=
  congrArg Dictionary.entries (ofList_entries ⟨entries, h⟩)

/-- What is looked up in a map whose keys have their values by a rule. -/
theorem find?_ofList_map (keys : List String) (value : String → α) (k : String) :
    (ofList (keys.map fun key => (key, value key))).find? k =
      if k ∈ keys then some (value k) else none := by
  apply Option.ext
  intro v
  rw [find?_ofList_eq_some]
  · by_cases hk : k ∈ keys
    · simp only [if_pos hk, Option.some.injEq, List.mem_map, Prod.mk.injEq]
      constructor
      · rintro ⟨_, -, rfl, rfl⟩
        rfl
      · rintro rfl
        exact ⟨k, hk, rfl, rfl⟩
    · simp only [if_neg hk, reduceCtorEq, List.mem_map, Prod.mk.injEq, iff_false]
      rintro ⟨_, hmem, rfl, -⟩
      exact hk hmem
  · intro k v v' hv hv'
    obtain ⟨_, -, heq⟩ := List.mem_map.1 hv
    obtain ⟨_, -, heq'⟩ := List.mem_map.1 hv'
    cases heq
    cases heq'
    rfl

end Dictionary

theorem mem_sortedTexts {texts : List String} {t : String} : t ∈ sortedTexts texts ↔ t ∈ texts := by
  simp [sortedTexts, Dictionary.mem_keys_ofList]

end GeoLayers
