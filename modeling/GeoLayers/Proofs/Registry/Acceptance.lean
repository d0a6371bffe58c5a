import GeoLayers.Proofs.Registry.Violations

/-!
Which registries are accepted, what is blamed in the others, and what can be looked up in a registry.
-/

namespace GeoLayers

/-! ### What is allowed -/

/-- A relation with plain names, whose title is not the alias of the layer's own table. -/
structure Relation.Allowed (relation : Relation) : Prop where
  title : PlainName relation.title
  table : PlainName relation.table
  sourceColumn : PlainName relation.sourceColumn
  targetColumn : PlainName relation.targetColumn
  not_reserved : relation.title ≠ "source"

/-- A layer with plain names, whose relations are allowed and have different titles. -/
structure Layer.Allowed (layer : Layer) : Prop where
  table : PlainName layer.table
  objectIdField : PlainName layer.objectIdField
  geometryField : PlainName layer.geometryField
  displayField : ∀ name, layer.displayField = some name → PlainName name
  timeField : ∀ name, layer.timeField? = some name → PlainName name
  relations : ∀ relation ∈ layer.relations, relation.Allowed
  titles : (layer.relations.map (·.title)).Nodup

/-- Services with different ids, whose layers are allowed and have different numbers. -/
structure Allowed (services : List Service) : Prop where
  ids : (services.map (·.id)).Nodup
  layerIds : ∀ service ∈ services, (service.layers.map (·.id)).Nodup
  layers : ∀ service ∈ services, ∀ layer ∈ service.layers, layer.Allowed

/-! ### Keys that are told apart -/

/-- Keys are told apart if no item has the key of one in front of it. -/
theorem nodup_keys_iff {α κ : Type} {key : α → κ} {items : List α} : (items.map key).Nodup ↔
    ∀ k item, items[k]? = some item → key item ∉ (items.take k).map key := by
  induction items with
  | nil => simp
  | cons first items ih =>
      rw [List.map_cons, List.nodup_cons, ih]
      constructor
      · rintro ⟨hfirst, hlater⟩ k item hk
        cases k with
        | zero => exact List.not_mem_nil
        | succ k =>
            rw [List.take_succ_cons, List.map_cons, List.mem_cons, not_or]
            refine ⟨fun heq => hfirst ?_, hlater k item hk⟩
            rw [← heq]
            exact List.mem_map_of_mem (List.mem_of_getElem? hk)
      · intro h
        constructor
        · intro hmem
          obtain ⟨item, hitem, hkey⟩ := List.mem_map.1 hmem
          obtain ⟨k, hk⟩ := List.mem_iff_getElem?.1 hitem
          exact h (k + 1) item hk (List.mem_cons.2 (.inl hkey))
        · intro k item hk hmem
          exact h (k + 1) item hk (List.mem_cons_of_mem _ hmem)

/-- With keys that are told apart, every item is found by its key. -/
theorem find?_key_eq_some_iff {α κ : Type} [BEq κ] [LawfulBEq κ] {key : α → κ} {items : List α}
    (h : (items.map key).Nodup) {k : κ} {item : α} :
    items.find? (key · == k) = some item ↔ item ∈ items ∧ key item = k := by
  constructor
  · intro hfound
    have hkey := List.find?_some hfound
    exact ⟨List.mem_of_find?_eq_some hfound, eq_of_beq hkey⟩
  · rintro ⟨hmem, rfl⟩
    induction items with
    | nil => cases hmem
    | cons first items ih =>
        rw [List.map_cons, List.nodup_cons] at h
        obtain ⟨hfresh, hnodup⟩ := h
        rcases List.mem_cons.1 hmem with rfl | hlater
        · exact List.find?_cons_of_pos BEq.rfl
        · have hne : key first ≠ key item := fun heq =>
            hfresh (heq ▸ List.mem_map_of_mem hlater)
          rw [List.find?_cons_of_neg (by simpa using hne)]
          exact ih hnodup hlater

/-! ### What breaks no rule is allowed -/

theorem Relation.not_breaks_iff {earlier : List Relation} {relation : Relation} :
    (∀ place fault, ¬relation.Breaks earlier place fault) ↔
      relation.Allowed ∧ relation.title ∉ earlier.map (·.title) := by
  constructor
  · intro h
    have hname {k : Nat} {role : NameRole} {name : String}
        (hk : relation.namesOf[k]? = some (role, name)) : PlainName name :=
      by_contra fun hname => h _ _ (.name hk hname)
    refine ⟨⟨hname (k := 0) rfl, hname (k := 1) rfl, hname (k := 2) rfl, hname (k := 3) rfl, ?_⟩, ?_⟩
    · exact fun heq => h _ _ (.reserved heq)
    · exact fun hmem => h _ _ (.repeated hmem)
  · rintro ⟨hallowed, hfresh⟩ place fault (⟨hk, hname⟩ | heq | hmem)
    · have hmem := List.mem_of_getElem? hk
      simp only [namesOf, List.mem_cons, Prod.mk.injEq, List.not_mem_nil, or_false] at hmem
      rcases hmem with ⟨-, rfl⟩ | ⟨-, rfl⟩ | ⟨-, rfl⟩ | ⟨-, rfl⟩
      · exact hname hallowed.title
      · exact hname hallowed.table
      · exact hname hallowed.sourceColumn
      · exact hname hallowed.targetColumn
    · exact hallowed.not_reserved heq
    · exact hfresh hmem

theorem Layer.plain_namesOf_iff {layer : Layer} : (∀ entry ∈ layer.namesOf, PlainName entry.2) ↔
    (PlainName layer.table ∧ PlainName layer.objectIdField ∧ PlainName layer.geometryField) ∧
      (∀ name, layer.displayField = some name → PlainName name) ∧
      ∀ name, layer.timeField? = some name → PlainName name := by
  rw [namesOf, List.forall_mem_append, List.forall_mem_append, List.forall_mem_map,
    List.forall_mem_map]
  simp [and_assoc]

theorem Layer.not_breaks_iff {layer : Layer} :
    (∀ place fault, ¬layer.Breaks place fault) ↔ layer.Allowed := by
  constructor
  · intro h
    have hnames : ∀ entry ∈ layer.namesOf, PlainName entry.2 := by
      rintro ⟨role, name⟩ hmem
      obtain ⟨k, hk⟩ := List.mem_iff_getElem?.1 hmem
      exact by_contra fun hname => h _ _ (.name hk hname)
    obtain ⟨⟨htable, hid, hgeometry⟩, hdisplay, htime⟩ := plain_namesOf_iff.1 hnames
    have hrelation {k : Nat} {relation : Relation} (hk : layer.relations[k]? = some relation) :
        relation.Allowed ∧ relation.title ∉ (layer.relations.take k).map (·.title) :=
      Relation.not_breaks_iff.1 fun place fault hbreaks => h _ _ (.relation hk hbreaks)
    refine ⟨htable, hid, hgeometry, hdisplay, htime, fun relation hmem => ?_, ?_⟩
    · obtain ⟨k, hk⟩ := List.mem_iff_getElem?.1 hmem
      exact (hrelation hk).1
    · exact nodup_keys_iff.2 fun k relation hk => (hrelation hk).2
  · rintro h place fault (⟨hk, hname⟩ | ⟨hk, hbreaks⟩)
    · have hnames := plain_namesOf_iff.2
        ⟨⟨h.table, h.objectIdField, h.geometryField⟩, h.displayField, h.timeField⟩
      exact hname (hnames _ (List.mem_of_getElem? hk))
    · have hnone := Relation.not_breaks_iff.2
        ⟨h.relations _ (List.mem_of_getElem? hk), nodup_keys_iff.1 h.titles _ _ hk⟩
      exact hnone _ _ hbreaks

theorem Layer.faults_eq_nil_iff {layer : Layer} : layer.faults = [] ↔ layer.Allowed := by
  rw [layer.inOrder_faults.eq_nil_iff, not_breaks_iff]

theorem not_breaks_iff {services : List Service} :
    (∀ place fault, ¬Breaks services place fault) ↔ Allowed services := by
  constructor
  · intro h
    have hservice {k : Nat} {service : Service} (hk : services[k]? = some service) :
        ∀ place fault, ¬service.Breaks (services.take k) place fault :=
      fun place fault hbreaks => h _ _ (.service hk hbreaks)
    refine ⟨?_, fun service hmem => ?_, fun service hmem layer hlayer => ?_⟩
    · exact nodup_keys_iff.2 fun k service hk hrepeated => hservice hk _ _ (.repeated hrepeated)
    · obtain ⟨k, hk⟩ := List.mem_iff_getElem?.1 hmem
      exact nodup_keys_iff.2 fun i layer hi hrepeated => hservice hk _ _ (.repeatedLayer hi hrepeated)
    · obtain ⟨k, hk⟩ := List.mem_iff_getElem?.1 hmem
      obtain ⟨i, hi⟩ := List.mem_iff_getElem?.1 hlayer
      exact Layer.not_breaks_iff.1 fun place fault hbreaks => hservice hk _ _ (.inLayer hi hbreaks)
  · rintro h place fault ⟨hk, hrepeated | ⟨hi, hrepeated⟩ | ⟨hi, hbreaks⟩⟩
    · exact nodup_keys_iff.1 h.ids _ _ hk hrepeated
    · exact nodup_keys_iff.1 (h.layerIds _ (List.mem_of_getElem? hk)) _ _ hi hrepeated
    · have hallowed := h.layers _ (List.mem_of_getElem? hk) _ (List.mem_of_getElem? hi)
      exact Layer.not_breaks_iff.2 hallowed _ _ hbreaks

theorem registryFaults_eq_nil_iff {services : List Service} :
    registryFaults services = [] ↔ Allowed services := by
  rw [(inOrder_registryFaults services).eq_nil_iff, not_breaks_iff]

/-! ### Accepted registries -/

namespace Registry

variable {registry : Registry} {services : List Service}

theorem ofServices_eq_ok_iff :
    ofServices services = .ok registry ↔ registry.services = services ∧ Allowed services := by
  rw [← registryFaults_eq_nil_iff]
  unfold ofServices
  split
  case h_1 hnone =>
    rw [Except.ok.injEq]
    constructor
    · rintro rfl
      exact ⟨rfl, hnone⟩
    · rintro ⟨rfl, -⟩
      rfl
  case h_2 fault faults hsome => simp [hsome]

theorem ofServices_eq_error_iff {fault : RegistryFault} :
    ofServices services = .error fault ↔ (registryFaults services).head? = some fault := by
  unfold ofServices
  split
  case h_1 hnone => simp [hnone]
  case h_2 first faults hsome => simp [hsome]

theorem allowed (registry : Registry) : Allowed registry.services :=
  registryFaults_eq_nil_iff.1 registry.sound

theorem service_eq_ok_iff {id : String} {service : Service} :
    registry.service id = .ok service ↔ service ∈ registry.services ∧ service.id = id := by
  rw [← find?_key_eq_some_iff registry.allowed.ids, Registry.service]
  split
  case h_1 found hfound => rw [hfound, Except.ok.injEq, Option.some.injEq]
  case h_2 hnone => simp [hnone]

theorem layer_eq_ok_iff {id : String} {number : Int} {service : Service} {layer : Layer} :
    registry.layer id number = .ok (service, layer) ↔
      service ∈ registry.services ∧ service.id = id ∧
        layer ∈ service.layers ∧ layer.id = number := by
  have hfound : registry.layer id number = .ok (service, layer) ↔
      registry.service id = .ok service ∧ service.layer? number = some layer := by
    unfold Registry.layer
    cases hservice : registry.service id with
    | error e => simp [bind, Except.bind]
    | ok found =>
        cases hlayer : found.layer? number with
        | none =>
            simp only [bind, Except.bind, hlayer, Except.ok.injEq]
            constructor
            · intro h
              cases h
            · rintro ⟨rfl, h⟩
              rw [hlayer] at h
              cases h
        | some other =>
            simp only [bind, Except.bind, hlayer, pure, Except.pure, Except.ok.injEq, Prod.mk.injEq]
            constructor
            · rintro ⟨rfl, rfl⟩
              exact ⟨rfl, hlayer⟩
            · rintro ⟨rfl, h⟩
              exact ⟨rfl, Option.some.inj (hlayer.symm.trans h)⟩
  rw [hfound, service_eq_ok_iff, and_assoc]
  refine and_congr_right fun hmem => and_congr_right fun _ => ?_
  exact find?_key_eq_some_iff (registry.allowed.layerIds service hmem)

theorem exists_ofServices_iff :
    (∃ registry, ofServices services = .ok registry) ↔ Allowed services := by
  simp only [ofServices_eq_ok_iff]
  constructor
  · rintro ⟨registry, -, hallowed⟩
    exact hallowed
  · intro hallowed
    exact ⟨⟨services, registryFaults_eq_nil_iff.2 hallowed⟩, rfl, hallowed⟩

/-- A registry is accepted as it is if and only if its services are allowed; else the violation at the
first place is told. In an accepted registry a layer is found if and only if its service declares it. -/
theorem ofServices_decides (services : List Service) :
    ((∃ registry, ofServices services = .ok registry) ↔ Allowed services) ∧
      (∀ registry, ofServices services = .ok registry ↔
        registry.services = services ∧ Allowed services) ∧
      (∀ fault, ofServices services = .error fault ↔
        ∃ place, Breaks services place fault ∧
          ∀ earlier other, Breaks services earlier other → ¬earlier < place) ∧
      ∀ (registry : Registry) (id : String) (number : Int) (service : Service) (layer : Layer),
        registry.layer id number = .ok (service, layer) ↔
          service ∈ registry.services ∧ service.id = id ∧
            layer ∈ service.layers ∧ layer.id = number := by
  refine ⟨exists_ofServices_iff, fun _ => ofServices_eq_ok_iff, fun fault => ?_,
    fun _ _ _ _ _ => layer_eq_ok_iff⟩
  rw [ofServices_eq_error_iff, (inOrder_registryFaults services).head?_eq_some_iff]

/-- A number that is used again is told before the names of its second layer are looked at. -/
example : ofServices
      [{ id := "wells"
         layers := [{ id := 0, name := "Wells", table := "db_wells", kind := .point },
          { id := 0, name := "Springs", table := "db springs", kind := .point }] }] =
    .error (.repeatedLayer "wells" 0) := rfl

end Registry

end GeoLayers
