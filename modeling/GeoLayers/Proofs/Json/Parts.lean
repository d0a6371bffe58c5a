import GeoLayers.Json.Basic
import GeoLayers.Proofs.Dictionary

/-!
The parts of a value: its leaves, which are neither arrays nor objects, and how deep they lie. What is
defined for a value and for the items of an array or the members of an object together is on these the
library's own operation, so facts about values need one induction, whose step assumes them of all
items and of all members.
-/

namespace GeoLayers.Json

/-- Whether a value is neither an array nor an object. -/
def isLeaf : Json → Bool
  | .array _ | .object _ => false
  | _ => true

mutual

/-- The leaves of a value, in order. -/
def leaves : Json → List Json
  | .array items => leavesOfItems items
  | .object members => leavesOfMembers members
  | v => [v]

def leavesOfItems : List Json → List Json
  | [] => []
  | v :: vs => leaves v ++ leavesOfItems vs

def leavesOfMembers : List (String × Json) → List Json
  | [] => []
  | (_, v) :: rest => leaves v ++ leavesOfMembers rest

end

mutual

/-- How many arrays and objects are around the leaf that has most of them around it. -/
def height : Json → Nat
  | .array items => heightOfItems items + 1
  | .object members => heightOfMembers members + 1
  | _ => 0

def heightOfItems : List Json → Nat
  | [] => 0
  | v :: vs => max (height v) (heightOfItems vs)

def heightOfMembers : List (String × Json) → Nat
  | [] => 0
  | (_, v) :: rest => max (height v) (heightOfMembers rest)

end

mutual

/-- A value with every floating-point number in it replaced. -/
def mapFloats (f : Float → Float) : Json → Json
  | .float x => .float (f x)
  | .array items => .array (mapFloatsOfItems f items)
  | .object members => .object (mapFloatsOfMembers f members)
  | v => v

def mapFloatsOfItems (f : Float → Float) : List Json → List Json
  | [] => []
  | v :: vs => mapFloats f v :: mapFloatsOfItems f vs

def mapFloatsOfMembers (f : Float → Float) : List (String × Json) → List (String × Json)
  | [] => []
  | (name, v) :: rest => (name, mapFloats f v) :: mapFloatsOfMembers f rest

end

/-- The members of every object stand in the order of their names, each of which is there once. -/
inductive Ordered : Json → Prop
  | leaf {v : Json} (h : v.isLeaf = true) : Ordered v
  | array {items : List Json} (h : ∀ v ∈ items, Ordered v) : Ordered (.array items)
  | object {members : List (String × Json)} (hincreasing : Dictionary.Increasing members)
    (h : ∀ member ∈ members, Ordered member.2) : Ordered (.object members)

/-- Whether a number is in range: a whole number is a word of 64 bits, and another number is finite. -/
def InRange : Json → Prop
  | .integer n => Number.minInt64 ≤ n ∧ n ≤ Number.maxWord64
  | .float x => Number.isFinite x = true
  | _ => True

instance : DecidablePred InRange
  | .integer n => inferInstanceAs (Decidable (Number.minInt64 ≤ n ∧ n ≤ Number.maxWord64))
  | .float x => inferInstanceAs (Decidable (Number.isFinite x = true))
  | .null | .bool _ | .text _ | .array _ | .object _ => inferInstanceAs (Decidable True)

/-! ### Traversals -/

mutual

theorem induction_of_parts {P : Json → Prop} (hleaf : ∀ v, v.isLeaf = true → P v)
    (harray : ∀ items, (∀ v ∈ items, P v) → P (.array items))
    (hobject : ∀ members, (∀ member ∈ members, P member.2) → P (.object members)) : ∀ v, P v
  | .null => hleaf _ rfl
  | .bool _ => hleaf _ rfl
  | .integer _ => hleaf _ rfl
  | .float _ => hleaf _ rfl
  | .text _ => hleaf _ rfl
  | .array items => harray items (forall_of_items hleaf harray hobject items)
  | .object members => hobject members (forall_of_members hleaf harray hobject members)

theorem forall_of_items {P : Json → Prop} (hleaf : ∀ v, v.isLeaf = true → P v)
    (harray : ∀ items, (∀ v ∈ items, P v) → P (.array items))
    (hobject : ∀ members, (∀ member ∈ members, P member.2) → P (.object members)) :
    ∀ items : List Json, ∀ v ∈ items, P v
  | [] => List.forall_mem_nil P
  | v :: vs => List.forall_mem_cons.2
      ⟨induction_of_parts hleaf harray hobject v, forall_of_items hleaf harray hobject vs⟩

theorem forall_of_members {P : Json → Prop} (hleaf : ∀ v, v.isLeaf = true → P v)
    (harray : ∀ items, (∀ v ∈ items, P v) → P (.array items))
    (hobject : ∀ members, (∀ member ∈ members, P member.2) → P (.object members)) :
    ∀ members : List (String × Json), ∀ member ∈ members, P member.2
  | [] => nofun
  | (_, v) :: rest => List.forall_mem_cons.2
      ⟨induction_of_parts hleaf harray hobject v, forall_of_members hleaf harray hobject rest⟩

end

theorem leavesOfItems_eq (items : List Json) : leavesOfItems items = items.flatMap leaves := by
  induction items with
  | nil => rfl
  | cons v vs ih => simp only [leavesOfItems, List.flatMap_cons, ih]

theorem leavesOfMembers_eq (members : List (String × Json)) :
    leavesOfMembers members = members.flatMap fun member => leaves member.2 := by
  induction members with
  | nil => rfl
  | cons member rest ih => simp only [leavesOfMembers, List.flatMap_cons, ih]

theorem mapFloatsOfItems_eq (f : Float → Float) (items : List Json) :
    mapFloatsOfItems f items = items.map (mapFloats f) := by
  induction items with
  | nil => rfl
  | cons v vs ih => simp only [mapFloatsOfItems, List.map_cons, ih]

theorem mapFloatsOfMembers_eq (f : Float → Float) (members : List (String × Json)) :
    mapFloatsOfMembers f members = members.map fun member => (member.1, mapFloats f member.2) := by
  induction members with
  | nil => rfl
  | cons member rest ih => simp only [mapFloatsOfMembers, List.map_cons, ih]

theorem canonicalItems_eq (items : List Json) : canonicalItems items = items.map canonical := by
  induction items with
  | nil => rfl
  | cons v vs ih => simp only [canonicalItems, List.map_cons, ih]

theorem canonicalMembers_eq (members : List (String × Json)) : canonicalMembers members =
    members.map fun member => (member.1, canonical member.2) := by
  induction members with
  | nil => rfl
  | cons member rest ih => simp only [canonicalMembers, List.map_cons, ih]

theorem areExpressible_iff {items : List Json} :
    areExpressible items = true ↔ ∀ v ∈ items, v.isExpressible = true := by
  induction items with
  | nil => simp [areExpressible]
  | cons v vs ih => rw [areExpressible, Bool.and_eq_true, ih, List.forall_mem_cons]

theorem membersExpressible_iff {members : List (String × Json)} :
    membersExpressible members = true ↔ ∀ member ∈ members, member.2.isExpressible = true := by
  induction members with
  | nil => simp [membersExpressible]
  | cons member rest ih => rw [membersExpressible, Bool.and_eq_true, ih, List.forall_mem_cons]

theorem leaves_of_isLeaf {v : Json} (h : v.isLeaf = true) : v.leaves = [v] := by
  cases v with
  | array | object => cases h
  | _ => rfl

theorem forall_leaves_array {P : Json → Prop} {items : List Json} :
    (∀ leaf ∈ (array items).leaves, P leaf) ↔ ∀ v ∈ items, ∀ leaf ∈ v.leaves, P leaf := by
  rw [leaves, leavesOfItems_eq]
  exact List.forall_mem_flatMap

theorem forall_leaves_object {P : Json → Prop} {members : List (String × Json)} :
    (∀ leaf ∈ (object members).leaves, P leaf) ↔
      ∀ member ∈ members, ∀ leaf ∈ member.2.leaves, P leaf := by
  rw [leaves, leavesOfMembers_eq]
  exact List.forall_mem_flatMap

theorem isExpressible_of_inRange {v : Json} (h : ∀ leaf ∈ v.leaves, leaf.InRange) :
    v.isExpressible = true := by
  induction v using induction_of_parts with
  | hleaf v hleaf =>
      rw [leaves_of_isLeaf hleaf, List.forall_mem_singleton] at h
      cases v with
      | float x => exact h
      | array | object => cases hleaf
      | _ => rfl
  | harray items ih =>
      rw [forall_leaves_array] at h
      exact areExpressible_iff.2 fun v hv => ih v hv (h v hv)
  | hobject members ih =>
      rw [forall_leaves_object] at h
      exact membersExpressible_iff.2 fun member hmember => ih member hmember (h member hmember)

theorem map_eq_self_iff {α : Type} {f : α → α} {xs : List α} :
    xs.map f = xs ↔ ∀ x ∈ xs, f x = x := by
  induction xs with
  | nil => simp
  | cons x xs ih => rw [List.map_cons, List.cons.injEq, ih, List.forall_mem_cons]

theorem Ordered.canonical_eq {v : Json} (h : v.Ordered) : v.canonical = v := by
  induction h with
  | @leaf v h =>
      cases v with
      | array | object => cases h
      | _ => rfl
  | @array items _ ih => rw [canonical, canonicalItems_eq, map_eq_self_iff.2 ih]
  | @object members hincreasing _ ih =>
      have hmembers : members.map (fun member => (member.1, canonical member.2)) = members :=
        map_eq_self_iff.2 fun member hmem => Prod.ext rfl (ih member hmem)
      rw [canonical, canonicalMembers_eq, hmembers, Dictionary.entries_ofList hincreasing]

theorem Ordered.mapFloats {v : Json} (h : v.Ordered) (f : Float → Float) :
    (v.mapFloats f).Ordered := by
  induction h with
  | @leaf v h =>
      cases v with
      | array | object => cases h
      | _ => exact .leaf rfl
  | array _ ih =>
      rw [Json.mapFloats, mapFloatsOfItems_eq]
      refine .array fun v hv => ?_
      obtain ⟨item, hitem, rfl⟩ := List.mem_map.1 hv
      exact ih item hitem
  | object hincreasing _ ih =>
      rw [Json.mapFloats, mapFloatsOfMembers_eq]
      refine .object (List.pairwise_map.2 hincreasing) fun mapped hmapped => ?_
      obtain ⟨member, hmember, rfl⟩ := List.mem_map.1 hmapped
      exact ih member hmember

end GeoLayers.Json
