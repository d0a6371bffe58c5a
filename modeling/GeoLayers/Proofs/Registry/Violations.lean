import GeoLayers.Registry
import Mathlib.Data.List.Basic
import Mathlib.Order.Basic

/-!
The rules that services can break, each at its place. A place is a list of numbers, the outermost one
first; what stands earlier in the text comes first in the lexicographic order. The checks of a
registry list all violations in the order of their places.
-/

namespace GeoLayers

/-! ### Faults in the order of their places -/

variable {F G α : Type} {At At' : List Nat → F → Prop} {faults others : List F}

/-- A list has the faults of a relation between places and faults, in the order of the places. -/
def InOrder (At : List Nat → F → Prop) (faults : List F) : Prop :=
  ∃ placed : List (List Nat × F), placed.map Prod.snd = faults ∧
    placed.Pairwise (fun a b => a.1 < b.1) ∧ ∀ place fault, (place, fault) ∈ placed ↔ At place fault

namespace InOrder

theorem congr (h : InOrder At faults) (hiff : ∀ place fault, At place fault ↔ At' place fault) :
    InOrder At' faults := by
  obtain ⟨placed, hfaults, hsorted, hmem⟩ := h
  exact ⟨placed, hfaults, hsorted, fun place fault => (hmem place fault).trans (hiff place fault)⟩

theorem nil : InOrder (fun _ (_ : F) => False) [] :=
  ⟨[], rfl, List.Pairwise.nil, by simp⟩

theorem single (place : List Nat) (fault : F) :
    InOrder (fun q g => q = place ∧ g = fault) [fault] :=
  ⟨[(place, fault)], rfl, List.pairwise_singleton _ _, by simp⟩

theorem ite {c : Prop} [Decidable c] (place : List Nat) (fault : F) :
    InOrder (fun q g => c ∧ q = place ∧ g = fault) (if c then [fault] else []) := by
  split
  case isTrue hc => exact (single place fault).congr (by simp [hc])
  case isFalse hc => exact nil.congr (by simp [hc])

theorem append (h : InOrder At faults) (h' : InOrder At' others)
    (hlt : ∀ p f q g, At p f → At' q g → p < q) :
    InOrder (fun place fault => At place fault ∨ At' place fault) (faults ++ others) := by
  obtain ⟨placed, rfl, hsorted, hmem⟩ := h
  obtain ⟨placed', rfl, hsorted', hmem'⟩ := h'
  refine ⟨placed ++ placed', by simp, ?_, ?_⟩
  · rw [List.pairwise_append]
    refine ⟨hsorted, hsorted', fun a ha b hb => ?_⟩
    exact hlt _ _ _ _ ((hmem a.1 a.2).1 ha) ((hmem' b.1 b.2).1 hb)
  · intro place fault
    rw [List.mem_append, hmem, hmem']

/-- Other faults at other places, which are in the same order. -/
theorem image (g : F → G) (move : List Nat → List Nat) (hmove : ∀ p q, p < q → move p < move q)
    (h : InOrder At faults) :
    InOrder (fun place fault => ∃ rest inner, place = move rest ∧ fault = g inner ∧ At rest inner)
      (faults.map g) := by
  obtain ⟨placed, rfl, hsorted, hmem⟩ := h
  refine ⟨placed.map fun a => (move a.1, g a.2), by simp, ?_, ?_⟩
  · rw [List.pairwise_map]
    exact hsorted.imp fun hlt => hmove _ _ hlt
  · intro place fault
    simp only [List.mem_map, Prod.mk.injEq, Prod.exists, ← hmem]
    constructor
    · rintro ⟨rest, inner, hat, rfl, rfl⟩
      exact ⟨rest, inner, rfl, rfl, hat⟩
    · rintro ⟨rest, inner, rfl, rfl, hat⟩
      exact ⟨rest, inner, hat, rfl, rfl⟩

theorem cons_lt_cons (n : Nat) (p q : List Nat) (h : p < q) : n :: p < n :: q :=
  List.cons_lt_cons_iff.2 (.inr ⟨rfl, h⟩)

/-- Faults inside a part of something, with the number of the part in front of their places. -/
theorem under (n : Nat) (h : InOrder At faults) :
    InOrder (fun place fault => ∃ rest, place = n :: rest ∧ At rest fault) faults := by
  have himage := h.image id (n :: ·) (cons_lt_cons n)
  rw [List.map_id] at himage
  exact himage.congr fun place fault => by simp

/-- The faults of the items of a list, each under the number of its item. -/
theorem checkEach (check : List α → α → List F) (AtItem : Nat → α → List Nat → F → Prop)
    (items earlier : List α) (n : Nat)
    (h : ∀ i item, items[i]? = some item →
      InOrder (AtItem i item) (check ((items.take i).reverse ++ earlier) item)) :
    InOrder (fun place fault => ∃ i item rest, items[i]? = some item ∧ place = (n + i) :: rest ∧
      AtItem i item rest fault) (checkEach check earlier items) := by
  induction items generalizing earlier n AtItem with
  | nil => exact nil.congr (by simp)
  | cons first items ih =>
      have hfirst := (h 0 first rfl).under n
      have hlater := ih (fun i => AtItem (i + 1)) (first :: earlier) (n + 1)
        fun i item hi => by simpa using h (i + 1) item hi
      rw [GeoLayers.checkEach]
      refine (hfirst.append hlater ?_).congr ?_
      · rintro _ f _ g ⟨rest, rfl, -⟩ ⟨i, item, rest', -, rfl, -⟩
        exact List.cons_lt_cons_iff.2 (.inl (by omega))
      · intro place fault
        constructor
        · rintro (⟨rest, rfl, hat⟩ | ⟨i, item, rest, hi, rfl, hat⟩)
          · exact ⟨0, first, rest, rfl, rfl, hat⟩
          · exact ⟨i + 1, item, rest, hi, by rw [Nat.add_assoc, Nat.add_comm 1], hat⟩
        · rintro ⟨i, item, rest, hi, rfl, hat⟩
          cases i with
          | zero =>
              obtain rfl := Option.some.inj hi
              exact .inl ⟨rest, rfl, hat⟩
          | succ i => exact .inr ⟨i, item, rest, hi, by rw [Nat.add_assoc, Nat.add_comm 1], hat⟩

/-- The same, if there is nothing in front of the list. -/
theorem checkAll (check : List α → α → List F) {AtItem : Nat → α → List Nat → F → Prop}
    (items : List α) (h : ∀ i item, items[i]? = some item →
      InOrder (AtItem i item) (check (items.take i).reverse item)) :
    InOrder (fun place fault => ∃ i item rest, items[i]? = some item ∧ place = i :: rest ∧
      AtItem i item rest fault) (GeoLayers.checkEach check [] items) := by
  have hall := checkEach check AtItem items [] 0 fun i item hi => by
    rw [List.append_nil]
    exact h i item hi
  simpa only [Nat.zero_add] using hall

theorem eq_nil_iff (h : InOrder At faults) : faults = [] ↔ ∀ place fault, ¬At place fault := by
  obtain ⟨placed, rfl, -, hmem⟩ := h
  rw [List.map_eq_nil_iff, List.eq_nil_iff_forall_not_mem, Prod.forall]
  simp only [hmem]

/-- The first fault of the list is the one with the first place. -/
theorem head?_eq_some_iff (h : InOrder At faults) {fault : F} : faults.head? = some fault ↔
    ∃ place, At place fault ∧ ∀ earlier other, At earlier other → ¬earlier < place := by
  obtain ⟨placed, rfl, hsorted, hmem⟩ := h
  cases placed with
  | nil => simp [← hmem]
  | cons first placed =>
      obtain ⟨hfirst, -⟩ := List.pairwise_cons.1 hsorted
      have hleast (earlier : List Nat) (other : F) (hat : At earlier other) : ¬earlier < first.1 := by
        rcases List.mem_cons.1 ((hmem earlier other).2 hat) with rfl | hlater
        · exact List.lt_irrefl earlier
        · exact List.lt_asymm (hfirst _ hlater)
      constructor
      · intro hhead
        obtain rfl := Option.some.inj hhead
        exact ⟨first.1, (hmem _ _).1 List.mem_cons_self, hleast⟩
      · rintro ⟨place, hat, hnone⟩
        rcases List.mem_cons.1 ((hmem place fault).2 hat) with rfl | hlater
        · rfl
        · exact absurd (hfirst _ hlater) (hnone _ _ ((hmem _ _).1 List.mem_cons_self))

end InOrder

/-! ### Plain names -/

/-- A letter from A to Z, small or not, or an underscore. -/
def IsNameStart (c : Char) : Prop :=
  ('A' ≤ c ∧ c ≤ 'Z') ∨ ('a' ≤ c ∧ c ≤ 'z') ∨ c = '_'

/-- A letter, an underscore or a digit. -/
def IsNamePart (c : Char) : Prop := IsNameStart c ∨ ('0' ≤ c ∧ c ≤ '9')

/-- A plain name: a letter or an underscore, and then letters, underscores and digits. -/
def PlainName (name : String) : Prop :=
  ∃ first rest, name.toList = first :: rest ∧ IsNameStart first ∧ ∀ c ∈ rest, IsNamePart c

theorem isNameStart_iff {c : Char} : (c.isAlpha || c == '_') = true ↔ IsNameStart c := by
  have hupper : c.isUpper = decide ('A'.val ≤ c.val ∧ c.val ≤ 'Z'.val) := rfl
  have hlower : c.isLower = (decide ('a'.val ≤ c.val) && decide (c.val ≤ 'z'.val)) := rfl
  have halpha : c.isAlpha = (c.isUpper || c.isLower) := rfl
  simp only [halpha, hupper, hlower, IsNameStart, Char.le_def, Bool.or_eq_true, Bool.and_eq_true,
    decide_eq_true_eq, beq_iff_eq, or_assoc]

theorem isNamePart_iff {c : Char} : (c.isAlphanum || c == '_') = true ↔ IsNamePart c := by
  have hdigit : c.isDigit = (decide ('0'.val ≤ c.val) && decide (c.val ≤ '9'.val)) := rfl
  have halphanum : c.isAlphanum = (c.isAlpha || c.isDigit) := rfl
  rw [IsNamePart, ← isNameStart_iff, halphanum, hdigit]
  simp only [Char.le_def, Bool.or_eq_true, Bool.and_eq_true, decide_eq_true_eq, or_right_comm]

theorem isPlainName_iff {name : String} : isPlainName name = true ↔ PlainName name := by
  unfold isPlainName PlainName
  cases name.toList with
  | nil => simp
  | cons first rest =>
      rw [Bool.and_eq_true, isNameStart_iff, List.all_eq_true]
      simp only [isNamePart_iff]
      constructor
      · rintro ⟨hfirst, hrest⟩
        exact ⟨first, rest, rfl, hfirst, hrest⟩
      · rintro ⟨_, _, heq, hfirst, hrest⟩
        obtain ⟨rfl, rfl⟩ := List.cons.inj heq
        exact ⟨hfirst, hrest⟩

theorem isPlainName_eq_false_iff {name : String} : isPlainName name = false ↔ ¬PlainName name := by
  rw [← isPlainName_iff, Bool.not_eq_true]

/-! ### The rules -/

/-- The names in the description of a relation, in the order in which they are looked at. -/
def Relation.namesOf (relation : Relation) : List (NameRole × String) :=
  [(.relatedTitle, relation.title), (.relationTable, relation.table),
    (.sourceColumn, relation.sourceColumn), (.targetColumn, relation.targetColumn)]

/-- The names in the description of a layer, without those in its relations. -/
def Layer.namesOf (layer : Layer) : List (NameRole × String) :=
  [(.table, layer.table), (.objectIdField, layer.objectIdField),
      (.geometryField, layer.geometryField)] ++
    layer.displayField.toList.map (.displayField, ·) ++
    layer.timeField?.toList.map (.startTimeField, ·)

/-- Which rules a relation breaks behind some other relations of its layer. -/
inductive Relation.Breaks (earlier : List Relation) (relation : Relation) :
    List Nat → LayerFault → Prop
  | name {k : Nat} {role : NameRole} {name : String} (hk : relation.namesOf[k]? = some (role, name))
      (hname : ¬PlainName name) : Breaks earlier relation [0, k] (.unsafeName role name)
  | reserved (h : relation.title = "source") :
      Breaks earlier relation [1] (.reservedTitle relation.title)
  | repeated (h : relation.title ∈ earlier.map (·.title)) :
      Breaks earlier relation [2] (.repeatedTitle relation.title)

/-- Which rules a layer breaks by itself. -/
inductive Layer.Breaks (layer : Layer) : List Nat → LayerFault → Prop
  | name {k : Nat} {role : NameRole} {name : String} (hk : layer.namesOf[k]? = some (role, name))
      (hname : ¬PlainName name) : Breaks layer [0, k] (.unsafeName role name)
  | relation {k : Nat} {relation : Relation} {place : List Nat} {fault : LayerFault}
      (hk : layer.relations[k]? = some relation)
      (h : relation.Breaks (layer.relations.take k) place fault) :
      Breaks layer (1 :: k :: place) fault

/-- Which rules a service breaks behind some other services. -/
inductive Service.Breaks (earlier : List Service) (service : Service) :
    List Nat → RegistryFault → Prop
  | repeated (h : service.id ∈ earlier.map (·.id)) :
      Breaks earlier service [0] (.repeatedService service.id)
  | repeatedLayer {k : Nat} {layer : Layer} (hk : service.layers[k]? = some layer)
      (h : layer.id ∈ (service.layers.take k).map (·.id)) :
      Breaks earlier service [1, k, 0] (.repeatedLayer service.id layer.id)
  | inLayer {k : Nat} {layer : Layer} {place : List Nat} {fault : LayerFault}
      (hk : service.layers[k]? = some layer) (h : layer.Breaks place fault) :
      Breaks earlier service (1 :: k :: 1 :: place) (.inLayer service.id layer.id fault)

/-- Which rules some services break. -/
inductive Breaks (services : List Service) : List Nat → RegistryFault → Prop
  | service {k : Nat} {service : Service} {place : List Nat} {fault : RegistryFault}
      (hk : services[k]? = some service) (h : service.Breaks (services.take k) place fault) :
      Breaks services (k :: place) fault

/-! ### The checks list all violations -/

theorem unsafeNames_eq_checkEach (names earlier : List (NameRole × String)) :
    unsafeNames names = checkEach
      (fun _ entry => if isPlainName entry.2 = false then [.unsafeName entry.1 entry.2] else [])
      earlier names := by
  induction names generalizing earlier with
  | nil => rfl
  | cons entry names ih =>
      rw [checkEach, ← ih]
      by_cases hplain : isPlainName entry.2 = true <;> simp [unsafeNames, hplain]

theorem inOrder_unsafeNames (names : List (NameRole × String)) :
    InOrder (fun place fault => ∃ k role name, names[k]? = some (role, name) ∧ ¬PlainName name ∧
      place = [k] ∧ fault = .unsafeName role name) (unsafeNames names) := by
  rw [unsafeNames_eq_checkEach names []]
  refine (InOrder.checkAll _ names fun _ _ _ => InOrder.ite [] _).congr fun place fault => ?_
  constructor
  · rintro ⟨k, ⟨role, name⟩, _, hk, rfl, hname, rfl, rfl⟩
    exact ⟨k, role, name, hk, isPlainName_eq_false_iff.1 hname, rfl, rfl⟩
  · rintro ⟨k, role, name, hk, hname, rfl, rfl⟩
    exact ⟨k, (role, name), [], hk, rfl, isPlainName_eq_false_iff.2 hname, rfl, rfl⟩

theorem Relation.inOrder_faults (earlier : List Relation) (relation : Relation) :
    InOrder (relation.Breaks earlier) (relation.faults earlier.reverse) := by
  have hnames := (inOrder_unsafeNames relation.namesOf).under 0
  have hreserved := InOrder.ite (c := relation.title = sourceAlias) [1]
    (LayerFault.reservedTitle relation.title)
  have hrepeated := InOrder.ite (c := relation.title ∈ earlier.reverse.map (·.title)) [2]
    (LayerFault.repeatedTitle relation.title)
  refine ((hnames.append hreserved ?_).append hrepeated ?_).congr fun place fault => ?_
  · rintro _ _ _ _ ⟨_, rfl, -⟩ ⟨-, rfl, -⟩
    exact List.cons_lt_cons_iff.2 (.inl (by decide))
  · rintro _ _ _ _ (⟨_, rfl, -⟩ | ⟨-, rfl, -⟩) ⟨-, rfl, -⟩ <;>
      exact List.cons_lt_cons_iff.2 (.inl (by decide))
  · rw [List.map_reverse, List.mem_reverse]
    constructor
    · rintro ((⟨_, rfl, k, role, name, hk, hname, rfl, rfl⟩ | ⟨h, rfl, rfl⟩) | ⟨h, rfl, rfl⟩)
      · exact .name hk hname
      · exact .reserved h
      · exact .repeated h
    · rintro (⟨hk, hname⟩ | h | h)
      · exact .inl (.inl ⟨_, rfl, _, _, _, hk, hname, rfl, rfl⟩)
      · exact .inl (.inr ⟨h, rfl, rfl⟩)
      · exact .inr ⟨h, rfl, rfl⟩

theorem Layer.inOrder_faults (layer : Layer) : InOrder layer.Breaks layer.faults := by
  have hnames := (inOrder_unsafeNames layer.namesOf).under 0
  have hrelations := (InOrder.checkAll Relation.faults layer.relations
    fun k relation _ => relation.inOrder_faults (layer.relations.take k)).under 1
  refine (hnames.append hrelations ?_).congr fun place fault => ?_
  · rintro _ _ _ _ ⟨_, rfl, -⟩ ⟨_, rfl, -⟩
    exact List.cons_lt_cons_iff.2 (.inl (by decide))
  · constructor
    · rintro (⟨_, rfl, k, role, name, hk, hname, rfl, rfl⟩ | ⟨_, rfl, k, relation, rest, hk, rfl, h⟩)
      · exact .name hk hname
      · exact .relation hk h
    · rintro (⟨hk, hname⟩ | ⟨hk, h⟩)
      · exact .inl ⟨_, rfl, _, _, _, hk, hname, rfl, rfl⟩
      · exact .inr ⟨_, rfl, _, _, _, hk, rfl, h⟩

theorem Service.inOrder_layerFaults (earlier : List Layer) (service : Service) (layer : Layer) :
    InOrder (fun place fault =>
      (layer.id ∈ earlier.map (·.id) ∧ place = [0] ∧ fault = .repeatedLayer service.id layer.id) ∨
        ∃ rest inner, place = 1 :: rest ∧ fault = .inLayer service.id layer.id inner ∧
          layer.Breaks rest inner)
      (service.layerFaults earlier.reverse layer) := by
  have hrepeated := InOrder.ite (c := layer.id ∈ earlier.reverse.map (·.id)) [0]
    (RegistryFault.repeatedLayer service.id layer.id)
  have hinner := layer.inOrder_faults.image (RegistryFault.inLayer service.id layer.id) (1 :: ·)
    (InOrder.cons_lt_cons 1)
  refine (hrepeated.append hinner ?_).congr fun place fault => ?_
  · rintro _ _ _ _ ⟨-, rfl, -⟩ ⟨_, _, rfl, -⟩
    exact List.cons_lt_cons_iff.2 (.inl (by decide))
  · rw [List.map_reverse, List.mem_reverse]

theorem Service.inOrder_faults (earlier : List Service) (service : Service) :
    InOrder (service.Breaks earlier) (service.faults earlier.reverse) := by
  have hrepeated := InOrder.ite (c := service.id ∈ earlier.reverse.map (·.id)) [0]
    (RegistryFault.repeatedService service.id)
  have hlayers := (InOrder.checkAll service.layerFaults service.layers
    fun k layer _ => service.inOrder_layerFaults (service.layers.take k) layer).under 1
  refine (hrepeated.append hlayers ?_).congr fun place fault => ?_
  · rintro _ _ _ _ ⟨-, rfl, -⟩ ⟨_, rfl, -⟩
    exact List.cons_lt_cons_iff.2 (.inl (by decide))
  · rw [List.map_reverse, List.mem_reverse]
    constructor
    · rintro (⟨h, rfl, rfl⟩ |
        ⟨_, rfl, k, layer, _, hk, rfl, ⟨h, rfl, rfl⟩ | ⟨rest, inner, rfl, rfl, h⟩⟩)
      · exact .repeated h
      · exact .repeatedLayer hk h
      · exact .inLayer hk h
    · rintro (h | ⟨hk, h⟩ | ⟨hk, h⟩)
      · exact .inl ⟨h, rfl, rfl⟩
      · exact .inr ⟨_, rfl, _, _, _, hk, rfl, .inl ⟨h, rfl, rfl⟩⟩
      · exact .inr ⟨_, rfl, _, _, _, hk, rfl, .inr ⟨_, _, rfl, rfl, h⟩⟩

/-- The checks of a registry list all violations, in the order of their places. -/
theorem inOrder_registryFaults (services : List Service) :
    InOrder (Breaks services) (registryFaults services) := by
  have hservices := InOrder.checkAll Service.faults services
    fun k service _ => service.inOrder_faults (services.take k)
  refine hservices.congr fun place fault => ?_
  constructor
  · rintro ⟨k, service, rest, hk, rfl, h⟩
    exact .service hk h
  · rintro ⟨hk, h⟩
    exact ⟨_, _, _, hk, rfl, h⟩

end GeoLayers
