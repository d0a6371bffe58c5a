import GeoLayers.Json.Decode
import GeoLayers.Proofs.Json.Parts

/-!
Decoding what was encoded. From the encoding of a value a decoder gives this value where it is admitted,
and nothing otherwise; lists, maps and records are given if their parts are. Members that are left out
of an object are missing fields.
-/

namespace GeoLayers.Json

/-- A result is `x` where this is admitted, and there is none otherwise. -/
def Gives {α : Type} (result : Option α) (x : α) (admitted : Prop) : Prop :=
  ∀ y, result = some y ↔ y = x ∧ admitted

namespace Gives

variable {α β : Type} {result : Option α} {x : α} {admitted : Prop}

theorem eq_some (h : Gives result x admitted) (hadmitted : admitted) : result = some x :=
  (h x).2 ⟨rfl, hadmitted⟩

theorem congr {allowed : Prop} (h : Gives result x admitted) (hiff : admitted ↔ allowed) :
    Gives result x allowed := fun y => (h y).trans (and_congr_right' hiff)

theorem pure (x : α) : Gives (some x) x True := by
  intro y
  rw [Option.some.injEq, and_true, eq_comm]

theorem bind {next : α → Option β} {z : β} {allowed : Prop} (h : Gives result x admitted)
    (hnext : Gives (next x) z allowed) : Gives (result >>= next) z (admitted ∧ allowed) := by
  intro y
  constructor
  · intro hy
    obtain ⟨x', hx', hy⟩ := Option.bind_eq_some_iff.1 hy
    obtain ⟨rfl, hadmitted⟩ := (h x').1 hx'
    obtain ⟨rfl, hallowed⟩ := (hnext y).1 hy
    exact ⟨rfl, hadmitted, hallowed⟩
  · rintro ⟨rfl, hadmitted, hallowed⟩
    rw [h.eq_some hadmitted]
    exact hnext.eq_some hallowed

/-- The last step of a decoder makes a value of what was read. -/
theorem into (h : Gives result x admitted) (f : α → β) :
    Gives (result >>= fun a => some (f a)) (f x) admitted :=
  (h.bind (pure (f x))).congr (and_iff_left trivial)

theorem map (h : Gives result x admitted) (f : α → β) : Gives (result.map f) (f x) admitted := by
  rw [Option.map_eq_bind]
  exact h.into f

theorem ite {test : Prop} [Decidable test] (x : α) : Gives (if test then some x else none) x test := by
  intro y
  rw [Option.ite_none_right_eq_some, Option.some.injEq, and_comm, eq_comm]

/-- Items that are read one by one are given together. -/
theorem mapM {read : β → Option α} {items : List β} {value : β → α} {admitted : β → Prop}
    (h : ∀ item ∈ items, Gives (read item) (value item) (admitted item)) :
    Gives (items.mapM read) (items.map value) (∀ item ∈ items, admitted item) := by
  induction items with
  | nil => exact (pure []).congr (iff_of_true trivial (List.forall_mem_nil admitted))
  | cons item rest ih =>
      rw [List.forall_mem_cons] at h
      rw [List.mapM_cons, List.map_cons, List.forall_mem_cons]
      exact h.1.bind ((ih h.2).into (value item :: ·))

end Gives

namespace Decoder

variable {α : Type} {decode : Decoder α} {encode : α → Json} {admitted : α → Prop}

theorem gives_float (x : Float) : Gives (float (.float x)) x (Number.isFinite x = true) := by
  rw [float, float?, Option.filter_some]
  exact .ite x

theorem gives_int32 (n : Int) :
    Gives (int32 (.integer n)) n (Number.minInt32 ≤ n ∧ n ≤ Number.maxInt32) := .ite n

theorem gives_any {v : Json} (h : v.Ordered) : Gives (any v) v (v.isExpressible = true) := by
  rw [any, h.canonical_eq]
  exact .ite v

theorem gives_list {xs : List α} (h : ∀ x ∈ xs, Gives (decode (encode x)) x (admitted x)) :
    Gives (list decode (.array (xs.map encode))) xs (∀ x ∈ xs, admitted x) := by
  have hitems : ∀ x ∈ xs, Gives ((decode ∘ encode) x) (id x) (admitted x) := h
  have hlist := Gives.mapM hitems
  rwa [List.map_id, ← List.mapM_map] at hlist

theorem gives_dictionary {d : Dictionary α}
    (h : ∀ key x, (key, x) ∈ d.entries → Gives (decode (encode x)) x (admitted x)) :
    Gives (dictionary decode (.object (d.entries.map fun entry => (entry.1, encode entry.2)))) d
      (∀ entry ∈ d.entries, admitted entry.2) := by
  have hentries : ∀ entry ∈ d.entries,
      Gives ((decode (encode entry.2)).map (entry.1, ·)) (id entry) (admitted entry.2) :=
    fun entry hentry => (h entry.1 entry.2 hentry).map (entry.1, ·)
  have hlist := (Gives.mapM hentries).map Dictionary.ofList
  rw [List.map_id, Dictionary.ofList_entries] at hlist
  rwa [dictionary, List.mapM_map]

/-- Attributes are encoded as they are. -/
theorem gives_attributes {row : Attributes} (h : ∀ entry ∈ row.entries, entry.2.Ordered) :
    Gives (attributes row.toJson) row (∀ entry ∈ row.entries, entry.2.isExpressible = true) := by
  have hrow := gives_dictionary fun key v hmem => gives_any (h (key, v) hmem)
  rwa [List.map_id'] at hrow

end Decoder

/-! ### Fields -/

/-- A field that is left out where there is no value. -/
theorem gives_optional {α : Type} {decode : Decoder α} {encode : α → Json} {admitted : α → Prop}
    (h : ∀ x, Gives (decode (encode x)) x (admitted x)) (hnull : ∀ x, encode x ≠ .null)
    (value : Option α) :
    Gives (optional decode (value.map encode)) value (∀ x ∈ value, admitted x) := by
  cases value with
  | none => exact (Gives.pure none).congr (iff_of_true trivial (fun _ hx => nomatch hx))
  | some x =>
      have hnullable : Decoder.nullable decode (encode x) = (decode (encode x)).map some := by
        unfold Decoder.nullable
        split
        case h_1 heq => exact absurd heq (hnull x)
        case h_2 => rfl
      rw [Option.map_some, optional, hnullable]
      refine ((h x).map some).congr ⟨?_, fun hall => hall x rfl⟩
      rintro hx y hy
      exact Option.some.inj hy ▸ hx

/-- The members that are there. -/
def present (members : List (String × Option Json)) : List (String × Json) :=
  members.filterMap fun (name, value) => value.map (name, ·)

theorem ofMembers_eq (members : List (String × Option Json)) :
    ofMembers members = .object (present members) := rfl

theorem present_none (name : String) (rest : List (String × Option Json)) :
    present ((name, none) :: rest) = present rest := rfl

theorem present_some (name : String) (v : Json) (rest : List (String × Option Json)) :
    present ((name, some v) :: rest) = (name, v) :: present rest := rfl

theorem forall_leaves_ofMembers {P : Json → Prop} {members : List (String × Option Json)} :
    (∀ leaf ∈ (ofMembers members).leaves, P leaf) ↔
      ∀ member ∈ members, ∀ v ∈ member.2, ∀ leaf ∈ v.leaves, P leaf := by
  rw [ofMembers_eq, forall_leaves_object]
  induction members with
  | nil => simp [present]
  | cons member rest ih =>
      obtain ⟨name, value⟩ := member
      rw [List.forall_mem_cons, ← ih]
      cases value with
      | none => simp [present_none]
      | some v => simp [present_some]

theorem filter_present {members : List (String × Option Json)}
    (h : (members.map Prod.fst).Nodup) (name : String) :
    (present members).filter (·.1 == name) =
      ((members.lookup name).join.map (name, ·)).toList := by
  induction members with
  | nil => rfl
  | cons member rest ih =>
      obtain ⟨key, value⟩ := member
      obtain ⟨hkey, hrest⟩ := List.nodup_cons.1 h
      rw [Dictionary.lookup_cons_eq_ite]
      by_cases hname : name = key
      · subst hname
        have hnone : rest.lookup name = none := Dictionary.lookup_of_notMem hkey
        have htail := ih hrest
        rw [hnone] at htail
        rw [if_pos rfl]
        cases value with
        | none => exact htail
        | some v =>
            rw [present_some, List.filter_cons_of_pos (by simp), htail]
            rfl
      · rw [if_neg hname, ← ih hrest]
        cases value with
        | none => rfl
        | some v => exact List.filter_cons_of_neg (by simpa using Ne.symm hname)

/-- Each name is looked up among members whose names differ, some of which are left out. -/
theorem fieldsOfObject_present {members : List (String × Option Json)}
    (h : (members.map Prod.fst).Nodup) (names : List String) :
    fieldsOfObject names (present members) =
      some (names.map fun name => (members.lookup name).join) := by
  rw [fieldsOfObject]
  refine Eq.trans (congrArg (fun read => names.mapM read) (funext fun name => ?_)) List.mapM_pure
  rw [filter_present h]
  cases (members.lookup name).join <;> rfl

end GeoLayers.Json
