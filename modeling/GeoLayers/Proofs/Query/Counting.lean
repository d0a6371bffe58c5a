import GeoLayers.Proofs.Query.Assembly
import GeoLayers.Proofs.Query.Evaluation
import GeoLayers.Query.Answer

/-!
The number of features and their ids. Both forms of a request join the tables that the client's
condition names and put the same conditions to the rows. The ids are distinct, so a row of the layer
is there once whatever is joined with it; but the number is that of the joined rows.
-/

namespace GeoLayers

open Join

variable {layer : Layer} {catalog : Catalog} {request : QueryRequest}

/-- The request for the number of features. -/
def QueryRequest.forCount (request : QueryRequest) : QueryRequest :=
  { request with idsOnly := false, countOnly := true }

/-- The request for the object ids. -/
def QueryRequest.forIds (request : QueryRequest) : QueryRequest := { request with idsOnly := true }

/-- The values of a column tell the rows of a layer's table apart. -/
structure Join.Contents.PrimaryKey (contents : Contents) (column : String) : Prop where
  self : ∀ parent ∈ contents.parents,
    contents.same (parent.columns column) (parent.columns column) = true
  apart : contents.parents.Pairwise fun parent other =>
    contents.same (parent.columns column) (other.columns column) = false

/-! ### Distinct values and numbers -/

section Lists

variable {α β : Type} {R : β → β → Prop} [DecidableRel R]

/-- Of a value that is there several times, one is distinct. -/
theorem pwFilter_replicate_append {x : β} {others : List β} (hself : ¬R x x)
    (hapart : ∀ y ∈ others, R x y) (n : Nat) :
    (List.replicate (n + 1) x ++ others).pwFilter R = x :: others.pwFilter R := by
  induction n with
  | zero =>
      exact List.pwFilter_cons_of_pos fun y hy => hapart y (List.pwFilter_subset others hy)
  | succ n ih =>
      rw [List.replicate_succ, List.cons_append, List.pwFilter_cons_of_neg, ih]
      rw [ih]
      exact fun hall => hself (hall x List.mem_cons_self)

/-- Of the keys of some things, each there several times or not at all, those that are there are
distinct. -/
theorem pwFilter_flatMap_replicate {items : List α} {key : α → β} (times : α → Nat)
    (hself : ∀ a ∈ items, ¬R (key a) (key a))
    (hapart : items.Pairwise fun a b => R (key a) (key b)) :
    (items.flatMap fun a => List.replicate (times a) (key a)).pwFilter R =
      (items.filter fun a => 0 < times a).map key := by
  induction items with
  | nil => rfl
  | cons a items ih =>
      rw [List.pairwise_cons] at hapart
      rw [List.forall_mem_cons] at hself
      have hrest := ih hself.2 hapart.2
      rw [List.flatMap_cons]
      cases htimes : times a with
      | zero => rw [List.filter_cons_of_neg (by simp [htimes]), ← hrest]; rfl
      | succ n =>
          rw [List.filter_cons_of_pos (by simp [htimes]), List.map_cons, ← hrest]
          refine pwFilter_replicate_append hself.1 ?_ n
          intro y hy
          obtain ⟨b, hb, hy⟩ := List.mem_flatMap.1 hy
          rw [(List.mem_replicate.1 hy).2]
          exact hapart.1 b hb

/-- As many things as have a number are no more than the sum of the numbers, and as many only if no
number is above one. -/
theorem length_filter_le_sum (items : List α) (times : α → Nat) :
    (items.filter fun a => 0 < times a).length ≤ (items.map times).sum ∧
      ((items.map times).sum = (items.filter fun a => 0 < times a).length ↔
        ∀ a ∈ items, times a ≤ 1) := by
  induction items with
  | nil => simp
  | cons a items ih =>
      obtain ⟨hle, hiff⟩ := ih
      rw [List.forall_mem_cons, ← hiff, List.map_cons, List.sum_cons, List.filter_cons]
      split
      case isTrue hpos =>
        have hpos := of_decide_eq_true hpos
        rw [List.length_cons]
        omega
      case isFalse hzero =>
        have hzero : ¬0 < times a := fun hpos => hzero (decide_eq_true hpos)
        omega

end Lists

/-! ### The plans of the two requests -/

section Plans

variable {text : String} {counted listed : Plan}

/-- The two requests have plans with one condition. -/
theorem plans_of_make (hclause : request.clause = some text) (hblank : ¬Text.isBlankText text)
    (hcounted : Plan.make layer catalog request.forCount = .ok counted)
    (hlisted : Plan.make layer catalog request.forIds = .ok listed) :
    ∃ w : Where, counted = ⟨[], [], some w, .count⟩ ∧
      listed = ⟨[layer.objectIdField], [], some w, .ids⟩ := by
  obtain ⟨condition, -, hcondition, rfl⟩ := Plan.checked_of_make hcounted
  obtain ⟨other, -, hother, rfl⟩ := Plan.checked_of_make hlisted
  obtain rfl : condition = other := Except.ok.inj (hcondition.symm.trans hother)
  cases condition with
  | some w => exact ⟨w, rfl, rfl⟩
  | none =>
      have hnone : Where.check catalog request.includesRelated text = .ok none := by
        rw [← hcondition]
        change _ = request.clause.elim _ _
        rw [hclause]
        rfl
      exact absurd ((Where.eq_none_iff_of_check hnone).1 rfl) hblank

theorem conjuncts_forIds (layer : Layer) (request : QueryRequest) (w : Where) :
    request.forIds.conjuncts layer (some w) = request.forCount.conjuncts layer (some w) := by
  have htime : request.forIds.timeConjunct layer true = request.forCount.timeConjunct layer true := by
    unfold QueryRequest.timeConjunct
    rfl
  simp only [QueryRequest.conjuncts, Option.isSome_some, htime]
  rfl

/-- Without a limit and a start the two statements have the same parameters. -/
theorem binds_forIds (layer : Layer) (hlimit : request.limit = 0) (hoffset : request.offset = 0) :
    (request.forIds.boundValues layer).map request.forIds.bindOf =
      (request.forCount.boundValues layer).map request.forCount.bindOf := by
  have hvalues : request.forIds.boundValues layer = request.forCount.boundValues layer := by
    simp only [QueryRequest.boundValues, QueryRequest.pageLimit?, QueryRequest.forIds,
      QueryRequest.forCount, QueryRequest.asksFeatures, hlimit, hoffset]
    simp
  have hbind : request.forIds.bindOf = request.forCount.bindOf := by
    funext value
    cases value <;> rfl
  rw [hvalues, hbind]

/-- A row of the layer satisfies the request for the ids beside some related rows exactly if it
satisfies the request for the number beside some: the related tables that the condition names are
joined in both. -/
theorem satisfying_ne_nil_iff (hlimit : request.limit = 0) (hoffset : request.offset = 0) (w : Where)
    (contents : Contents) (parent : Parent) :
    0 < (Plan.satisfying contents layer request.forIds
        ⟨[layer.objectIdField], [], some w, .ids⟩ parent).length ↔
      0 < (Plan.satisfying contents layer request.forCount ⟨[], [], some w, .count⟩ parent).length := by
  have hnamed : (Plan.relations layer ⟨[layer.objectIdField], [], some w, .ids⟩).filter
      (w.titles.contains ·.title) = Plan.relations layer ⟨[], [], some w, .count⟩ := by
    rw [Plan.relations, Plan.relations, List.filter_filter]
    apply List.filter_congr
    intro relation _
    by_cases hmem : relation.title ∈ w.titles <;> simp [Plan.titles, hmem]
  have hown : (Plan.relations layer ⟨[], [], some w, .count⟩).filter (w.titles.contains ·.title) =
      Plan.relations layer ⟨[], [], some w, .count⟩ := by
    rw [← hnamed, List.filter_filter]
    simp
  have htitles (request : QueryRequest) :
      (request.conjuncts layer (some w)).flatMap Conjunct.titles = w.titles :=
    Plan.titles_conjuncts (some w)
  rw [List.length_pos_iff_exists_mem, List.length_pos_iff_exists_mem]
  unfold Plan.satisfying
  simp only [List.mem_filter, htitles, conjuncts_forIds, binds_forIds layer hlimit hoffset]
  constructor
  · rintro ⟨combination, hmem, hsatisfied⟩
    have hrest := Tables.restrict_mem_combinations w.titles hmem
    refine ⟨combination.restrict w.titles, hnamed ▸ hrest, ?_⟩
    rw [Combination.restrict_restrict]
    exact hsatisfied
  · rintro ⟨combination, hmem, hsatisfied⟩
    have hrest := Tables.restrict_mem_combinations w.titles hmem
    rw [hown, ← hnamed] at hrest
    obtain ⟨whole, hwhole, heq⟩ := Tables.exists_mem_combinations_restrict hrest
    exact ⟨whole, hwhole, heq ▸ hsatisfied⟩

end Plans

/-! ### The rows that are answered -/

section Rows

variable {contents : Contents} {plan : Plan}

/-- One row tells how many joined rows satisfy a query. -/
theorem rows_of_count (h : plan.projection = .count) (contents : Contents) :
    plan.rows contents layer request = [Dictionary.ofList [("count", .integer
      ((contents.parents.map fun parent =>
        (plan.satisfying contents layer request parent).length).sum : Nat))]] := by
  have hselect : (plan.sources layer).select = .count := by
    rw [Plan.sources, h]
  rw [Plan.rows, hselect, SelectList.rows, List.length_flatMap]
  simp only [List.length_map]

/-- One row tells the object id of every row of the layer that satisfies a query beside some related
rows. -/
theorem rows_of_ids (h : plan.projection = .ids) (hkey : contents.PrimaryKey layer.objectIdField) :
    plan.rows contents layer request =
      ((contents.parents.filter fun parent =>
          0 < (plan.satisfying contents layer request parent).length).map
        fun parent => parent.columns layer.objectIdField).map
          fun id => Dictionary.ofList [(layer.objectIdField, id)] := by
  have hselect : (plan.sources layer).select = .distinct ⟨sourceAlias, layer.objectIdField⟩ := by
    rw [Plan.sources, h]
  rw [Plan.rows, hselect, SelectList.rows, List.map_flatMap]
  simp only [List.map_map, Function.comp_def, Combination.valueOf, if_true, List.map_const']
  rw [pwFilter_flatMap_replicate _ (by simpa using hkey.self) (by simpa using hkey.apart),
    List.map_map]
  rfl

/-- The number in an answer, whatever the order of its only row. -/
theorem ofPage_forCount (hlimit : request.limit = 0) (reference : SpatialReference)
    {row : Attributes} {rows : List Attributes} (h : rows.Perm [row]) :
    QueryAnswer.ofPage layer catalog reference request.forCount
      (Page.ofRows request.forCount.pageLimit? rows) = .ok (.count row) := by
  obtain rfl := List.perm_singleton.1 h
  have hpage : request.forCount.pageLimit? = none := by
    simp [QueryRequest.pageLimit?, QueryRequest.forCount, hlimit]
  rw [hpage]
  rfl

/-- The ids in an answer, in the order of its rows. -/
theorem ofPage_forIds (reference : SpatialReference) {rows : List Attributes} {ids : List Json}
    (h : rows.Perm (ids.map fun id => Dictionary.ofList [(layer.objectIdField, id)])) :
    ∃ answered : List Json, answered.Perm ids ∧
      QueryAnswer.ofPage layer catalog reference request.forIds
        (Page.ofRows request.forIds.pageLimit? rows) =
          .ok (.ids layer.objectIdField false answered) := by
  refine ⟨rows.filterMap (·.find? layer.objectIdField), ?_, rfl⟩
  have hids := h.filterMap (·.find? layer.objectIdField)
  rw [List.filterMap_map] at hids
  refine hids.trans (.of_eq ?_)
  have hfind (id : Json) :
      (Dictionary.ofList [(layer.objectIdField, id)]).find? layer.objectIdField = some id :=
    (Dictionary.find?_insert .empty layer.objectIdField layer.objectIdField id).trans (if_pos rfl)
  simp only [Function.comp_def, hfind, List.filterMap_some]

end Rows

/-- The number that is answered to a request with a condition is that of the joined rows that
satisfy it. The ids are those of the rows of the layer that satisfy it beside some related rows, each
once. So the number is never below that of the ids, and it is the same exactly if no row of the layer
satisfies the condition beside several combinations of related rows. -/
theorem count_eq_ids_iff {text : String} (hclause : request.clause = some text)
    (hblank : ¬Text.isBlankText text) (hlimit : request.limit = 0) (hoffset : request.offset = 0)
    {counting listing : Statement} (hcounting : compile layer catalog request.forCount = .ok counting)
    (hlisting : compile layer catalog request.forIds = .ok listing) :
    ∃ counted listed : Plan,
      Plan.make layer catalog request.forCount = .ok counted ∧
      Plan.make layer catalog request.forIds = .ok listed ∧
      counted.Writes layer request.forCount counting ∧
      listed.Writes layer request.forIds listing ∧
      ∀ contents : Contents, contents.PrimaryKey layer.objectIdField →
      ∀ (reference : SpatialReference) (countRows idRows : List Attributes),
        countRows.Perm (counted.rows contents layer request.forCount) →
        idRows.Perm (listed.rows contents layer request.forIds) →
        ∃ (n : Nat) (ids : List Json),
          QueryAnswer.ofPage layer catalog reference request.forCount
              (Page.ofRows request.forCount.pageLimit? countRows) =
            .ok (.count (Dictionary.ofList [("count", .integer n)])) ∧
          QueryAnswer.ofPage layer catalog reference request.forIds
              (Page.ofRows request.forIds.pageLimit? idRows) =
            .ok (.ids layer.objectIdField false ids) ∧
          ids.Perm ((contents.parents.filter fun parent =>
              0 < (counted.satisfying contents layer request.forCount parent).length).map
            fun parent => parent.columns layer.objectIdField) ∧
          ids.length ≤ n ∧
          (n = ids.length ↔ ∀ parent ∈ contents.parents,
            (counted.satisfying contents layer request.forCount parent).length ≤ 1) := by
  obtain ⟨counted, hcounted, hcountText⟩ := Plan.writes_of_compile hcounting
  obtain ⟨listed, hlisted, hidText⟩ := Plan.writes_of_compile hlisting
  obtain ⟨w, rfl, rfl⟩ := plans_of_make hclause hblank hcounted hlisted
  refine ⟨_, _, hcounted, hlisted, hcountText, hidText, ?_⟩
  intro contents hkey reference countRows idRows hcountRows hidRows
  rw [rows_of_count rfl contents] at hcountRows
  rw [rows_of_ids rfl hkey] at hidRows
  simp only [satisfying_ne_nil_iff hlimit hoffset w contents] at hidRows
  obtain ⟨ids, hids, hanswer⟩ := ofPage_forIds reference hidRows
  obtain ⟨hle, hiff⟩ := length_filter_le_sum contents.parents fun parent =>
    (Plan.satisfying contents layer request.forCount ⟨[], [], some w, .count⟩ parent).length
  have hlength := hids.length_eq
  rw [List.length_map] at hlength
  exact ⟨_, ids, ofPage_forCount hlimit reference hcountRows, hanswer, hids, hlength ▸ hle,
    hlength ▸ hiff⟩

/-- A request for the samples of the seventh well that are above a bound. -/
def sampleRequest : QueryRequest where
  clause := some "samples.ph > 68"
  objectIds := [7]

/-- Two wells of a site with samples of some values. -/
def sampledWells (values : List Int) : Contents where
  parents := [7, 8].map fun id => wellOf (.integer id) .null
  tables := { wellsTables with
    rows := fun relation =>
      if relation = samples then
        values.map fun value => rowOf [("site_id", .integer 3), ("ph", .integer value)]
      else [] }
  same := wellsTables.equal
  satisfied _ _ parent combination :=
    wellsTables.equal (parent.columns "db_id") (.integer 7) &&
      match (combination.row? "samples").map fun row : TableRow => row "ph" with
      | some (.integer value) => 68 < value
      | _ => false

theorem primaryKey_sampledWells (values : List Int) :
    (sampledWells values).PrimaryKey wells.objectIdField := by
  refine ⟨?_, ?_⟩
  · change ∀ parent ∈ [7, 8].map fun id => wellOf (.integer id) .null,
      wellsTables.equal (parent.columns "db_id") (parent.columns "db_id") = true
    decide +kernel
  · change ([7, 8].map fun id => wellOf (.integer id) .null).Pairwise fun parent other =>
      wellsTables.equal (parent.columns "db_id") (other.columns "db_id") = false
    decide +kernel

/-- How many samples satisfy the request, for each well, if one of two is above the bound and if both
are. -/
theorem exists_plan_forCount : ∃ plan,
    Plan.make wells wellsCatalog sampleRequest.forCount = .ok plan ∧ plan.projection = .count ∧
      [[65, 71], [70, 71]].map (fun values => (sampledWells values).parents.map fun parent =>
        (plan.satisfying (sampledWells values) wells sampleRequest.forCount parent).length) =
          [[1, 0], [2, 0]] := by
  have hnumbers : (Plan.make wells wellsCatalog sampleRequest.forCount).toOption.map (fun plan =>
      (plan.projection, [[65, 71], [70, 71]].map fun values =>
        (sampledWells values).parents.map fun parent =>
          (plan.satisfying (sampledWells values) wells sampleRequest.forCount parent).length)) =
      some (.count, [[1, 0], [2, 0]]) := by
    decide +kernel
  obtain ⟨plan, hplan, hnumbers⟩ := Option.map_eq_some_iff.1 hnumbers
  obtain ⟨hprojection, hnumbers⟩ := Prod.mk.inj hnumbers
  exact ⟨plan, eq_ok_of_toOption hplan, hprojection, hnumbers⟩

/-- One id is answered if both samples are above the bound. -/
theorem exists_plan_forIds : ∃ plan,
    Plan.make wells wellsCatalog sampleRequest.forIds = .ok plan ∧
      (plan.rows (sampledWells [70, 71]) wells sampleRequest.forIds).length = 1 := by
  have hnumber : (Plan.make wells wellsCatalog sampleRequest.forIds).toOption.map (fun plan =>
      (plan.rows (sampledWells [70, 71]) wells sampleRequest.forIds).length) = some 1 := by
    decide +kernel
  obtain ⟨plan, hplan, hnumber⟩ := Option.map_eq_some_iff.1 hnumber
  exact ⟨plan, eq_ok_of_toOption hplan, hnumber⟩

/-- One of the two samples is above the bound. -/
theorem count_eq_ids_wells :
    let contents := sampledWells [65, 71]
    ∃ (counting listing : Statement) (counted listed : Plan),
      sampleRequest.clause = some "samples.ph > 68" ∧ ¬Text.isBlankText "samples.ph > 68" ∧
      sampleRequest.limit = 0 ∧ sampleRequest.offset = 0 ∧
      compile wells wellsCatalog sampleRequest.forCount = .ok counting ∧
      compile wells wellsCatalog sampleRequest.forIds = .ok listing ∧
      contents.PrimaryKey wells.objectIdField ∧
      counted.Writes wells sampleRequest.forCount counting ∧
      listed.Writes wells sampleRequest.forIds listing ∧
      ∃ (n : Nat) (ids : List Json),
        QueryAnswer.ofPage wells wellsCatalog default sampleRequest.forCount
            (Page.ofRows sampleRequest.forCount.pageLimit?
              (counted.rows contents wells sampleRequest.forCount)) =
          .ok (.count (Dictionary.ofList [("count", .integer n)])) ∧
        QueryAnswer.ofPage wells wellsCatalog default sampleRequest.forIds
            (Page.ofRows sampleRequest.forIds.pageLimit?
              (listed.rows contents wells sampleRequest.forIds)) =
          .ok (.ids wells.objectIdField false ids) ∧
        n = ids.length := by
  intro contents
  have hblank : ¬Text.isBlankText "samples.ph > 68" := by decide +kernel
  have hkey := primaryKey_sampledWells [65, 71]
  obtain ⟨plan, hplan, -, hnumbers⟩ := exists_plan_forCount
  obtain ⟨_, hother, -⟩ := exists_plan_forIds
  have hcounting := Plan.compile_of_make hplan
  have hlisting := Plan.compile_of_make hother
  obtain ⟨counted, listed, hcounted, -, hcountText, hidText, hanswers⟩ :=
    count_eq_ids_iff rfl hblank rfl rfl hcounting hlisting
  obtain rfl := Except.ok.inj (hplan.symm.trans hcounted)
  obtain ⟨n, ids, hcount, hids, -, -, hiff⟩ :=
    hanswers contents hkey default _ _ (.refl _) (.refl _)
  have hone : ∀ parent ∈ contents.parents,
      (plan.satisfying contents wells sampleRequest.forCount parent).length ≤ 1 := by
    have hnumbers : contents.parents.map (fun parent =>
        (plan.satisfying contents wells sampleRequest.forCount parent).length) = [1, 0] :=
      (List.cons.inj hnumbers).1
    intro parent hparent
    have hnumber := hnumbers ▸ List.mem_map_of_mem hparent
    simp only [List.mem_cons, List.not_mem_nil, or_false] at hnumber
    omega
  exact ⟨_, _, plan, listed, rfl, hblank, rfl, rfl, hcounting, hlisting, hkey, hcountText, hidText,
    n, ids, hcount, hids, hiff.2 hone⟩

/-- Both samples of a well are above the bound: the well is counted twice, but its id is answered
once. -/
theorem samples_counted :
    let contents := sampledWells [70, 71]
    contents.PrimaryKey wells.objectIdField ∧
      ∃ (counting listing : Statement) (counted listed : Plan),
        compile wells wellsCatalog sampleRequest.forCount = .ok counting ∧
        compile wells wellsCatalog sampleRequest.forIds = .ok listing ∧
        counted.Writes wells sampleRequest.forCount counting ∧
        listed.Writes wells sampleRequest.forIds listing ∧
        counted.rows contents wells sampleRequest.forCount =
          [Dictionary.ofList [("count", .integer 2)]] ∧
        (listed.rows contents wells sampleRequest.forIds).length = 1 := by
  intro contents
  obtain ⟨counted, hcounted, hprojection, hnumbers⟩ := exists_plan_forCount
  obtain ⟨listed, hlisted, hone⟩ := exists_plan_forIds
  have hnumbers : contents.parents.map (fun parent =>
      (counted.satisfying contents wells sampleRequest.forCount parent).length) = [2, 0] :=
    (List.cons.inj (List.cons.inj hnumbers).2).1
  refine ⟨primaryKey_sampledWells [70, 71], _, _, counted, listed, Plan.compile_of_make hcounted,
    Plan.compile_of_make hlisted, Plan.writes_of_make hcounted, Plan.writes_of_make hlisted, ?_,
    hone⟩
  rw [rows_of_count hprojection, hnumbers]
  rfl

end GeoLayers
