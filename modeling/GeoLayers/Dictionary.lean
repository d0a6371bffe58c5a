/-!
Maps from texts to values, kept in the order of their keys. The order of texts is that of their
code points, which is also the order of their UTF-8 bytes. The keys are strictly increasing, so a
map has one entry for a key and one form for its content.
-/

namespace GeoLayers

/-- Entries with `key` set to `value`, an entry with that key being replaced. -/
def Dictionary.insertEntry {α : Type} (key : String) (value : α) :
    List (String × α) → List (String × α)
  | [] => [(key, value)]
  | (k, v) :: rest =>
    if key < k then (key, value) :: (k, v) :: rest
    else if key = k then (key, value) :: rest
    else (k, v) :: Dictionary.insertEntry key value rest

/-- Whether the keys of entries are strictly increasing. -/
def Dictionary.Increasing {α : Type} (entries : List (String × α)) : Prop :=
  entries.Pairwise fun a b => a.1 < b.1

theorem Dictionary.key_of_mem_insertEntry {α : Type} {key : String} {value : α} {p : String × α} :
    ∀ {entries : List (String × α)}, p ∈ Dictionary.insertEntry key value entries →
      p.1 = key ∨ p ∈ entries
  | [], h => by
    simp only [Dictionary.insertEntry, List.mem_singleton] at h
    exact .inl (by rw [h])
  | (k, v) :: rest, h => by
    simp only [Dictionary.insertEntry] at h
    split at h
    · rcases List.mem_cons.1 h with h | h
      · exact .inl (by rw [h])
      · exact .inr h
    · split at h
      · rcases List.mem_cons.1 h with h | h
        · exact .inl (by rw [h])
        · exact .inr (List.mem_cons_of_mem _ h)
      · rcases List.mem_cons.1 h with h | h
        · exact .inr (h ▸ List.mem_cons_self)
        · rcases Dictionary.key_of_mem_insertEntry h with h | h
          · exact .inl h
          · exact .inr (List.mem_cons_of_mem _ h)

theorem Dictionary.increasing_insertEntry {α : Type} (key : String) (value : α) :
    ∀ {entries : List (String × α)}, Dictionary.Increasing entries →
      Dictionary.Increasing (Dictionary.insertEntry key value entries)
  | [], _ => by simp [Dictionary.insertEntry, Dictionary.Increasing]
  | (k, v) :: rest, h => by
    have hall : ∀ p ∈ rest, k < p.1 := fun _ hp => List.rel_of_pairwise_cons h hp
    have hrest : Dictionary.Increasing rest := List.Pairwise.of_cons h
    simp only [Dictionary.insertEntry]
    split
    case isTrue hlt =>
      refine List.pairwise_cons.2 ⟨fun p hp => ?_, h⟩
      rcases List.mem_cons.1 hp with rfl | hp
      · exact hlt
      · exact String.lt_trans hlt (hall p hp)
    case isFalse hge =>
      split
      case isTrue heq =>
        subst heq
        exact List.pairwise_cons.2 ⟨hall, hrest⟩
      case isFalse hne =>
        refine List.pairwise_cons.2
          ⟨fun p hp => ?_, Dictionary.increasing_insertEntry key value hrest⟩
        rcases Dictionary.key_of_mem_insertEntry hp with hp | hp
        · rw [hp]
          exact Decidable.byContradiction fun hnot =>
            hne (String.le_antisymm (String.not_lt.1 hnot) (String.not_lt.1 hge))
        · exact hall p hp

/-- A map from texts to values. -/
structure Dictionary (α : Type) where
  entries : List (String × α)
  increasing : Dictionary.Increasing entries

namespace Dictionary

variable {α : Type}

/-- The map without entries. -/
def empty : Dictionary α := ⟨[], List.Pairwise.nil⟩

instance : Inhabited (Dictionary α) := ⟨empty⟩

theorem ext_entries {a b : Dictionary α} (h : a.entries = b.entries) : a = b := by
  cases a
  cases b
  cases h
  rfl

/-- Sets the value of a key. -/
def insert (d : Dictionary α) (key : String) (value : α) : Dictionary α :=
  ⟨insertEntry key value d.entries, increasing_insertEntry key value d.increasing⟩

/-- The map with the given entries; of several with one key the last counts. -/
def ofList (entries : List (String × α)) : Dictionary α :=
  entries.foldl (fun d (key, value) => d.insert key value) empty

/-- The value of a key. -/
def find? (d : Dictionary α) (key : String) : Option α := d.entries.lookup key

theorem lookup_cons_eq_ite (k key : String) (value : α) (entries : List (String × α)) :
    ((key, value) :: entries).lookup k = if k = key then some value else entries.lookup k := by
  by_cases hk : k = key
  · simp [hk]
  · rw [List.lookup_cons, beq_eq_false_iff_ne.2 hk, if_neg hk]

theorem lookup_insertEntry (key k : String) (value : α) (entries : List (String × α)) :
    (insertEntry key value entries).lookup k =
      if k = key then some value else entries.lookup k := by
  induction entries with
  | nil => exact lookup_cons_eq_ite k key value []
  | cons entry rest ih =>
    obtain ⟨k', v⟩ := entry
    rw [insertEntry]
    split
    case isTrue => exact lookup_cons_eq_ite k key value _
    case isFalse =>
      split
      case isTrue heq =>
        subst heq
        rw [lookup_cons_eq_ite, lookup_cons_eq_ite]
        by_cases hk : k = key
        · rw [if_pos hk, if_pos hk]
        · rw [if_neg hk, if_neg hk, if_neg hk]
      case isFalse hne =>
        rw [lookup_cons_eq_ite, lookup_cons_eq_ite, ih]
        by_cases hk' : k = k'
        · rw [if_pos hk', if_neg (fun h : k = key => hne (h.symm.trans hk')), if_pos hk']
        · rw [if_neg hk', if_neg hk']

/-- After a key is set it has that value, and every other key has the value it had. -/
theorem find?_insert (d : Dictionary α) (key k : String) (value : α) :
    (d.insert key value).find? k = if k = key then some value else d.find? k :=
  lookup_insertEntry key k value d.entries

def contains (d : Dictionary α) (key : String) : Bool := (d.find? key).isSome

def keys (d : Dictionary α) : List String := d.entries.map Prod.fst

def isEmpty (d : Dictionary α) : Bool := d.entries.isEmpty

/-- The entries whose key satisfies a test. -/
def filterKeys (d : Dictionary α) (test : String → Bool) : Dictionary α :=
  ⟨d.entries.filter fun entry => test entry.1, d.increasing.filter _⟩

/-- Removes a key. -/
def erase (d : Dictionary α) (key : String) : Dictionary α := d.filterKeys (· != key)

end Dictionary

end GeoLayers
