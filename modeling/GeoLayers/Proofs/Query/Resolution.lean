import GeoLayers.Proofs.Catalog.Lookup
import GeoLayers.Proofs.Query.Assembly
import GeoLayers.Proofs.Query.Names
import GeoLayers.Proofs.Query.References
import GeoLayers.Proofs.Where.Columns

/-!
Which references of a query's statement resolve. A field is checked by its name as a whole, and is
written as the column of a related table if its name has a period and else as a column of the layer's
own table. The two agree for every name but that of a column of the layer's own table with a period
in it: such a column is taken for one of a related table, wherever a client asks for it.
-/

namespace GeoLayers

open Database

/-- The columns that references may be to: those of the layer's own table, those that the layer is
configured with, and those of the tables that are joined. -/
inductive Resolves (layer : Layer) (schema : Schema) (joined : List Relation) : Reference → Prop
  | own {column : String} (h : column ∈ schema.columns layer.table) :
      Resolves layer schema joined ⟨sourceAlias, column⟩
  | configured {column : String} (h : column = layer.objectIdField ∨ column = layer.geometryField ∨
      column ∈ layer.relations.map Relation.sourceColumn) :
      Resolves layer schema joined ⟨sourceAlias, column⟩
  | related {relation : Relation} {column : String} (hjoined : relation ∈ joined)
      (h : column ∈ schema.columns relation.table ∨ column = relation.targetColumn) :
      Resolves layer schema joined ⟨relation.title, column⟩

namespace QueryRequest

/-- A request for features asks for a column by its name or together with all others. -/
def Selects (request : QueryRequest) (column : String) : Prop :=
  request.asksFeatures = true ∧
    ("*" ∈ Plan.requestedFields request ∨ column ∈ Plan.requestedFields request)

/-- A request for features asks for a column, or for features in its order. -/
def Asks (request : QueryRequest) (column : String) : Prop :=
  request.Selects column ∨ request.asksFeatures = true ∧ column ∈ request.sort.map (·.name)

end QueryRequest

/-- A statement refers to columns that there are, and to those of the layer's own table in it. -/
structure Sources.Genuine (q : Sources) (layer : Layer) (schema : Schema) (request : QueryRequest) :
    Prop where
  resolved : ∀ r ∈ q.references, Resolves layer schema q.joined r
  selected : ∀ column ∈ schema.columns layer.table, column ≠ layer.geometryField →
    request.Selects column → (⟨sourceAlias, column⟩, column) ∈ q.select.items
  sorted : request.asksFeatures = true → ∀ field ∈ request.sort,
    field.name ∈ schema.columns layer.table → (⟨sourceAlias, field.name⟩, field) ∈ q.sorted

variable {layer : Layer} {schema : Schema} {catalog : Catalog} {request : QueryRequest} {plan : Plan}
  {s : Statement}

/-! ### References by names -/

theorem fieldReference_of_notMem {name : String} (h : '.' ∉ name.toList) :
    fieldReference name = ⟨sourceAlias, name⟩ := by
  rw [fieldReference, Text.cutAt_of_notMem h]

theorem fieldReference_qualify {relation : Relation} (h : '.' ∉ relation.title.toList)
    (column : String) : fieldReference (relation.qualify column) = ⟨relation.title, column⟩ := by
  rw [fieldReference, Relation.cutAt_qualify h]

/-- A column with a period in its name is not written as itself. -/
theorem notMem_of_fieldReference {name : String} (h : fieldReference name = ⟨sourceAlias, name⟩) :
    '.' ∉ name.toList := by
  cases hcut : Text.cutAt '.' name with
  | none => exact Text.notMem_of_cutAt hcut
  | some cut =>
      obtain ⟨title, column⟩ := cut
      rw [fieldReference, hcut] at h
      obtain ⟨-, rfl⟩ := Reference.mk.inj h
      have hlength := congrArg List.length (Text.eq_append_of_cutAt hcut)
      simp at hlength
      omega

/-! ### The names of a plan -/

namespace Plan

theorem passes_of_checkFields {fields : List String}
    (h : checkFields catalog request fields = .ok ()) :
    (∀ name ∈ fields, catalog.Passes request.includesRelated name) ∧
      ∀ field ∈ request.sort, isStar field.name = false ∧
        catalog.Passes request.includesRelated field.name := by
  obtain ⟨⟨⟩, hfields, h⟩ := exists_ok_of_bind h
  refine ⟨fun name hname => Catalog.passes_of_checkNames hfields hname, ?_⟩
  split at h
  case h_1 => cases h
  case h_2 hnone =>
    intro field hfield
    have hstar := List.find?_eq_none.1 hnone field hfield
    exact ⟨by simpa using hstar, Catalog.passes_of_checkNames h (List.mem_map_of_mem hfield)⟩

/-- A plan for features selects what the fields that are asked for stand for, with the object id. -/
structure ForFeatures (layer : Layer) (catalog : Catalog) (request : QueryRequest) (plan : Plan) :
    Prop where
  fields : ∀ {name}, name ∈ plan.fields ↔
    name = layer.objectIdField ∨ name ∈ requestedFields request
  sort : plan.sort = request.sort
  projection : plan.projection = .fields (expandFields layer catalog plan.fields) request.withGeometry
  checked : checkFields catalog request (requestedFields request) = .ok ()

theorem forFeatures_of_make (h : make layer catalog request = .ok plan)
    (hfeatures : request.asksFeatures = true) : plan.ForFeatures layer catalog request := by
  obtain ⟨hids, hcount⟩ := QueryRequest.asksFeatures_iff.1 hfeatures
  obtain ⟨condition, hchecked, -, rfl⟩ := checked_of_make h
  have hplan : ofCondition layer catalog request condition =
      { fields := (ofCondition layer catalog request condition).fields, sort := request.sort, condition
        projection := .fields
          (expandFields layer catalog (ofCondition layer catalog request condition).fields)
          request.withGeometry } := by
    simp [ofCondition, hids, hcount]
  refine ⟨?_, congrArg Plan.sort hplan, congrArg Plan.projection hplan, hchecked hids⟩
  intro name
  simp only [ofCondition, hids, hcount, Bool.false_eq_true, if_false]
  split
  case isTrue hmem =>
    refine ⟨.inr, ?_⟩
    rintro (rfl | hname)
    · simpa using hmem
    · exact hname
  case isFalse => exact List.mem_cons

theorem sort_of_make (h : make layer catalog request = .ok plan)
    (hfeatures : request.asksFeatures = false) : plan.sort = [] := by
  obtain ⟨condition, -, -, rfl⟩ := checked_of_make h
  rw [QueryRequest.asksFeatures, Bool.and_eq_false_iff, Bool.not_eq_false',
    Bool.not_eq_false'] at hfeatures
  unfold ofCondition
  cases hids : request.idsOnly with
  | true => rfl
  | false =>
      cases hcount : request.countOnly with
      | true => rfl
      | false => simp [hids, hcount] at hfeatures

/-- A relation whose title stands before the period of a name is joined. -/
theorem mem_relations_of_cutAt {relation : Relation} (hrelation : relation ∈ layer.relations)
    {name column : String} (hname : name ∈ plan.fields ++ plan.sort.map (·.name))
    (hcut : Text.cutAt '.' name = some (relation.title, column)) :
    relation ∈ plan.relations layer := by
  have htitle : relation.title ∈ plan.titles :=
    List.mem_append_left _ (List.mem_filterMap.2 ⟨name, hname, by rw [hcut]; rfl⟩)
  exact List.mem_filter.2 ⟨hrelation, by simpa using htitle⟩

theorem relation_of_mem_relations {relation : Relation} (h : relation ∈ plan.relations layer) :
    relation ∈ layer.relations :=
  (List.mem_filter.1 h).1

end Plan

section Names

variable (hlayer : layer.faults = [])

include hlayer

theorem resolves_objectIdField (joined : List Relation) :
    Resolves layer schema joined (fieldReference layer.objectIdField) := by
  rw [fieldReference_of_notMem (notMem_of_isPlainName (layer.objectIdField_plain hlayer) (by decide))]
  exact .configured (.inl rfl)

theorem resolves_sourceColumn (joined : List Relation) {column : String}
    (h : column ∈ layer.relations.map Relation.sourceColumn) :
    Resolves layer schema joined (fieldReference column) := by
  obtain ⟨relation, hrelation, rfl⟩ := List.mem_map.1 h
  rw [fieldReference_of_notMem (layer.sourceColumn_plain hlayer hrelation)]
  exact .configured (.inr (.inr h))

/-- A name that passed its check is written as a column that there is, unless it is the name of a
column of the layer's own table with a period in it. -/
theorem resolves_of_passes {name : String} (hname : name ∈ plan.fields ++ plan.sort.map (·.name))
    (hbare : IsBare name) (hstar : Plan.isStar name = false)
    (hpasses : (schema.catalog layer).Passes request.includesRelated name)
    (hplain : name ∈ schema.columns layer.table → '.' ∉ name.toList) :
    Resolves layer schema (plan.relations layer) (fieldReference name) := by
  rw [Catalog.Passes, hbare.fixed] at hpasses
  rw [Plan.isStar, Bool.or_eq_false_iff, beq_eq_false_iff_ne, Option.isSome_eq_false_iff,
    Option.isNone_iff_eq_none] at hstar
  rcases hpasses with hempty | hall | hfield | ⟨-, hrelated⟩
  · exact absurd hempty hbare.nonempty
  · exact absurd hall hstar.1
  · have hcolumn := Schema.mem_columns_of_hasField hfield
    rw [fieldReference_of_notMem (hplain hcolumn)]
    exact .own hcolumn
  · obtain ⟨title, column, related, hcut, hfound, hmem⟩ := Catalog.isRelatedName_eq_true hrelated
    obtain ⟨relation, hrelation, rfl, hnames⟩ := Schema.exists_of_related? hfound
    rcases hmem with rfl | hmem
    · have hends : name = relation.title ++ ".*" := by
        rw [← String.toList_inj, Text.eq_append_of_cutAt hcut, String.toList_append]
        rfl
      rw [Text.stripEnd_eq_some.2 hends] at hstar
      cases hstar.2
    · rw [hnames] at hmem
      obtain ⟨column, hcolumn, rfl⟩ := List.mem_map.1 hmem
      rw [fieldReference_qualify (layer.title_plain hlayer hrelation)]
      exact .related (Plan.mem_relations_of_cutAt hrelation hname hcut) (.inl hcolumn)

/-- What fields stand for is written as columns that there are if the fields themselves are. -/
theorem resolves_of_mem_expandFields
    (hfields : ∀ field ∈ plan.fields, Plan.isStar field = false →
      Resolves layer schema (plan.relations layer) (fieldReference field))
    (hplain : "*" ∈ plan.fields → ∀ column ∈ schema.columns layer.table, '.' ∉ column.toList)
    {name : String} (hname : name ∈ expandFields layer (schema.catalog layer) plan.fields) :
    Resolves layer schema (plan.relations layer) (fieldReference name) := by
  rw [expandFields, mem_firstOccurrences, List.mem_filter, List.mem_append] at hname
  rcases hname.1 with hkey | hmeaning
  · split at hkey
    case isTrue =>
      rcases List.mem_cons.1 hkey with rfl | hkey
      · exact resolves_objectIdField hlayer _
      · exact resolves_sourceColumn hlayer _ hkey
    case isFalse => cases hkey
  · obtain ⟨field, hfield, hmeaning⟩ := List.mem_flatMap.1 hmeaning
    unfold fieldMeaning at hmeaning
    split at hmeaning
    case isTrue hall =>
      rw [eq_of_beq hall] at hfield
      rw [Schema.map_name_catalog] at hmeaning
      rw [fieldReference_of_notMem (hplain hfield name hmeaning)]
      exact .own hmeaning
    case isFalse hall =>
      split at hmeaning
      case h_1 title htitle =>
        cases hfound : (schema.catalog layer).related? title with
        | none =>
            rw [hfound] at hmeaning
            cases hmeaning
        | some related =>
            obtain ⟨relation, hrelation, rfl, hnames⟩ := Schema.exists_of_related? hfound
            rw [hfound] at hmeaning
            change name ∈ related.names at hmeaning
            rw [hnames] at hmeaning
            obtain ⟨column, hcolumn, rfl⟩ := List.mem_map.1 hmeaning
            have hplain := layer.title_plain hlayer hrelation
            have hcut : Text.cutAt '.' field = some (relation.title, "*") := by
              rw [Text.stripEnd_eq_some.1 htitle, ← Relation.cutAt_qualify hplain, Relation.qualify,
                String.append_assoc]
              rfl
            rw [fieldReference_qualify hplain]
            exact .related
              (Plan.mem_relations_of_cutAt hrelation (List.mem_append_left _ hfield) hcut) (.inl hcolumn)
      case h_2 hend =>
        rw [List.mem_singleton.1 hmeaning]
        apply hfields field hfield
        rw [Plan.isStar, hend]
        simpa using hall

/-- The fields that rows are sorted by are written as columns that there are if those are that were
asked for. -/
theorem resolves_of_mem_order
    (hsort : ∀ field ∈ plan.sort, Resolves layer schema (plan.relations layer)
      (fieldReference field.name))
    {field : SortField} (hfield : field ∈ plan.order layer (plan.relations layer)) :
    Resolves layer schema (plan.relations layer) (fieldReference field.name) := by
  rcases Plan.mem_order hfield with rfl | hfield | ⟨relation, hrelation, rfl⟩
  · exact resolves_objectIdField hlayer _
  · exact hsort field hfield
  · apply resolves_sourceColumn hlayer
    exact List.mem_map_of_mem (Plan.relation_of_mem_relations hrelation)

end Names

/-! ### Genuine statements -/

theorem eq_fieldReference_of_mem_items {r : Reference} {name : String}
    (h : (r, name) ∈ (plan.sources layer).select.items) : r = fieldReference name := by
  unfold Plan.sources at h
  cases hprojection : plan.projection with
  | count => simp [hprojection, SelectList.items] at h
  | ids => simp [hprojection, SelectList.items] at h
  | fields names geometry =>
      rw [hprojection] at h
      obtain ⟨_, -, heq⟩ := List.mem_map.1 h
      cases heq
      rfl

theorem eq_fieldReference_of_mem_sorted {r : Reference} {field : SortField}
    (h : (r, field) ∈ (plan.sources layer).sorted) : r = fieldReference field.name := by
  obtain ⟨_, -, heq⟩ := List.mem_map.1 h
  cases heq
  rfl

/-- No column with a period in its name is asked for if all columns are written as themselves. -/
theorem notMem_of_genuine (hlayer : layer.faults = [])
    (h : (plan.sources layer).Genuine layer schema request) {column : String}
    (hcolumn : column ∈ schema.columns layer.table) (hasked : request.Asks column) :
    '.' ∉ column.toList := by
  rcases hasked with hselected | ⟨hfeatures, hsorted⟩
  · by_cases hgeometry : column = layer.geometryField
    · rw [hgeometry]
      exact notMem_of_isPlainName (layer.geometryField_plain hlayer) (by decide)
    · have hitem := h.selected column hcolumn hgeometry hselected
      exact notMem_of_fieldReference (eq_fieldReference_of_mem_items hitem).symm
  · obtain ⟨field, hfield, rfl⟩ := List.mem_map.1 hsorted
    have hitem := h.sorted hfeatures field hfield hcolumn
    exact notMem_of_fieldReference (eq_fieldReference_of_mem_sorted hitem).symm

theorem resolves_of_mem_joins {r : Reference}
    (h : r ∈ (plan.relations layer).flatMap Sources.joinReferences) :
    Resolves layer schema (plan.relations layer) r := by
  obtain ⟨relation, hrelation, hr⟩ := List.mem_flatMap.1 h
  rcases List.mem_cons.1 hr with rfl | hr
  · apply Resolves.configured
    exact .inr (.inr (List.mem_map_of_mem (Plan.relation_of_mem_relations hrelation)))
  · rw [List.mem_singleton.1 hr]
    exact .related hrelation (.inr rfl)

section Features

variable (hlayer : layer.faults = []) (hfeatures : request.asksFeatures = true)
  (hplan : plan.ForFeatures layer (schema.catalog layer) request)
  (hfields : ∀ name ∈ Plan.requestedFields request, IsBare name)
  (hsort : ∀ field ∈ request.sort, IsBare field.name)
  (hplain : ∀ column ∈ schema.columns layer.table, request.Asks column → '.' ∉ column.toList)

include hlayer hfeatures hplan hplain hfields in
theorem resolves_of_mem_fields {name : String} (hname : name ∈ plan.fields)
    (hstar : Plan.isStar name = false) :
    Resolves layer schema (plan.relations layer) (fieldReference name) := by
  rcases hplan.fields.1 hname with rfl | hrequested
  · exact resolves_objectIdField hlayer _
  · have hpasses := (Plan.passes_of_checkFields hplan.checked).1 name hrequested
    exact resolves_of_passes hlayer (List.mem_append_left _ hname) (hfields name hrequested) hstar
      hpasses fun hcolumn => hplain name hcolumn (.inl ⟨hfeatures, .inr hrequested⟩)

include hlayer hfeatures hplan hplain hsort in
theorem resolves_of_mem_sort {field : SortField} (hfield : field ∈ plan.sort) :
    Resolves layer schema (plan.relations layer) (fieldReference field.name) := by
  have hname : field.name ∈ plan.fields ++ plan.sort.map (·.name) :=
    List.mem_append_right _ (List.mem_map_of_mem hfield)
  rw [hplan.sort] at hfield
  obtain ⟨hstar, hpasses⟩ := (Plan.passes_of_checkFields hplan.checked).2 field hfield
  exact resolves_of_passes hlayer hname (hsort field hfield) hstar hpasses fun hcolumn =>
    hplain field.name hcolumn (.inr ⟨hfeatures, List.mem_map_of_mem hfield⟩)

include hlayer hfeatures hplan hplain hfields in
theorem resolves_of_mem_selected {name : String}
    (hname : name ∈ expandFields layer (schema.catalog layer) plan.fields) :
    Resolves layer schema (plan.relations layer) (fieldReference name) := by
  refine resolves_of_mem_expandFields hlayer
    (fun _ => resolves_of_mem_fields hlayer hfeatures hplan hfields hplain) ?_ hname
  intro hstar column hcolumn
  rcases hplan.fields.1 hstar with heq | hrequested
  · have hid := notMem_of_isPlainName (c := '*') (layer.objectIdField_plain hlayer) (by decide)
    rw [← heq] at hid
    exact absurd (by decide) hid
  · exact hplain column hcolumn (.inl ⟨hfeatures, .inl hrequested⟩)

include hplan hplain in
/-- A column that is asked for is among those that the fields stand for. -/
theorem mem_expandFields_of_selects {column : String} (hcolumn : column ∈ schema.columns layer.table)
    (hgeometry : column ≠ layer.geometryField) (hselected : request.Selects column) :
    column ∈ expandFields layer (schema.catalog layer) plan.fields := by
  rw [expandFields, mem_firstOccurrences, List.mem_filter]
  refine ⟨List.mem_append_right _ (List.mem_flatMap.2 ?_), by simpa using hgeometry⟩
  have hall : column ∈ fieldMeaning (schema.catalog layer) "*" := by
    rw [fieldMeaning, if_pos (beq_self_eq_true _), Schema.map_name_catalog]
    exact hcolumn
  rcases hselected.2 with hstar | hname
  · exact ⟨"*", hplan.fields.2 (.inr hstar), hall⟩
  · refine ⟨column, hplan.fields.2 (.inr hname), ?_⟩
    by_cases hstar : column = "*"
    · rw [hstar] at hall ⊢
      exact hall
    · rw [fieldMeaning_eq_self hstar (hplain column hcolumn (.inl hselected))]
      exact List.mem_singleton.2 rfl

end Features

section Made

variable (hlayer : layer.faults = [])
  (hplan : Plan.make layer (schema.catalog layer) request = .ok plan)
  (hfields : ∀ name ∈ Plan.requestedFields request, IsBare name)
  (hsort : ∀ field ∈ request.sort, IsBare field.name)
  (hplain : ∀ column ∈ schema.columns layer.table, request.Asks column → '.' ∉ column.toList)

include hlayer hplan hplain

include hfields in
theorem resolves_of_mem_select {r : Reference}
    (h : r ∈ (plan.sources layer).select.references) :
    Resolves layer schema (plan.relations layer) r := by
  rw [Plan.sources] at h
  cases hprojection : plan.projection with
  | count =>
      rw [hprojection] at h
      cases h
  | ids =>
      rw [hprojection] at h
      rw [List.mem_singleton.1 h]
      exact .configured (.inl rfl)
  | fields names geometry =>
      have hfeatures := ((Plan.answers_of_make hplan).features hprojection).1
      have hforFeatures := Plan.forFeatures_of_make hplan hfeatures
      obtain ⟨rfl, -⟩ := Projection.fields.inj (hprojection.symm.trans hforFeatures.projection)
      rw [hprojection] at h
      rcases List.mem_append.1 h with hitem | hgeometry
      · rw [List.map_map] at hitem
        obtain ⟨name, hname, rfl⟩ := List.mem_map.1 hitem
        exact resolves_of_mem_selected hlayer hfeatures hforFeatures hfields hplain hname
      · cases geometry with
        | false => cases hgeometry
        | true =>
            rw [List.mem_singleton.1 hgeometry]
            exact .configured (.inr (.inl rfl))

include hsort in
theorem resolves_of_mem_sorted {r : Reference}
    (h : r ∈ (plan.sources layer).sorted.map Prod.fst) :
    Resolves layer schema (plan.relations layer) r := by
  rw [Plan.sources, List.map_map] at h
  obtain ⟨field, hfield, rfl⟩ := List.mem_map.1 h
  refine resolves_of_mem_order hlayer (fun field hfield => ?_) hfield
  cases hfeatures : request.asksFeatures with
  | false =>
      rw [Plan.sort_of_make hplan hfeatures] at hfield
      cases hfield
  | true =>
      have hforFeatures := Plan.forFeatures_of_make hplan hfeatures
      exact resolves_of_mem_sort hlayer hfeatures hforFeatures hsort hplain hfield

include hfields hsort in
/-- A statement is genuine if no column with a period in its name is asked for. -/
theorem genuine_of_plain : (plan.sources layer).Genuine layer schema request := by
  refine ⟨?resolved, ?selected, ?sorted⟩
  case resolved =>
    intro r hr
    rw [Sources.references, List.mem_append, List.mem_append] at hr
    rcases hr with (hselected | hjoined) | hsorted
    · exact resolves_of_mem_select hlayer hplan hfields hplain hselected
    · exact resolves_of_mem_joins hjoined
    · exact resolves_of_mem_sorted hlayer hplan hsort hplain hsorted
  case selected =>
    intro column hcolumn hgeometry hselected
    have hforFeatures := Plan.forFeatures_of_make hplan hselected.1
    have hmem := mem_expandFields_of_selects hforFeatures hplain hcolumn hgeometry hselected
    rw [← fieldReference_of_notMem (hplain column hcolumn (.inl hselected)), Plan.sources,
      hforFeatures.projection]
    exact List.mem_map_of_mem hmem
  case sorted =>
    intro hfeatures field hfield hcolumn
    have hforFeatures := Plan.forFeatures_of_make hplan hfeatures
    have hasked : request.Asks field.name := .inr ⟨hfeatures, List.mem_map_of_mem hfield⟩
    rw [← hforFeatures.sort] at hfield
    rw [← fieldReference_of_notMem (hplain field.name hcolumn hasked)]
    exact List.mem_map_of_mem (Plan.mem_order_of_mem_sort hforFeatures.projection hfield _)

end Made

/-- Every relation is joined at most once, under a title of its own. -/
theorem joined_titles_nodup (hlayer : layer.faults = []) (plan : Plan) :
    (sourceAlias :: (plan.relations layer).map Relation.title).Nodup := by
  rw [List.nodup_cons]
  constructor
  · intro hmem
    obtain ⟨relation, hrelation, htitle⟩ := List.mem_map.1 hmem
    exact layer.title_ne_sourceAlias hlayer (Plan.relation_of_mem_relations hrelation) htitle
  · exact (layer.titles_nodup hlayer).sublist (List.filter_sublist.map Relation.title)

section Compiled

variable {σ : Type} {responder : Responder σ} {state : σ} {p : QueryParameters} {settings : Settings}

/-- Everything that a statement refers to outside of its conditions is there, and the columns that
are asked for are those of the layer's own table, exactly if no column with a period in its name is
asked for. The relations are joined under titles that tell all tables apart in any case. -/
theorem references_genuine_iff (hlayer : layer.faults = []) (hdescribes : Describes responder schema)
    (hcatalog : (Session.run responder (ExceptT.run (Catalog.lookup layer)) state).value = .ok catalog)
    (hrequest : p.toRequest settings = .ok request)
    (hcompile : compile layer catalog request = .ok s) :
    ∃ plan, Plan.make layer catalog request = .ok plan ∧
      s.sql = (plan.sources layer).text layer.table
        (Part.render (request.boundValues layer) (.value .outSrid))
        (Part.renderAll (request.boundValues layer) (plan.conditionLayout layer request))
        (Part.renderAll (request.boundValues layer) request.pageLayout) ∧
      (plan.sources layer).joined.Sublist layer.relations ∧
      (sourceAlias :: (plan.sources layer).joined.map Relation.title).Nodup ∧
      ((plan.sources layer).Genuine layer schema request ↔
        ∀ column ∈ schema.columns layer.table, request.Asks column → '.' ∉ column.toList) := by
  obtain rfl := Catalog.eq_of_lookup hdescribes hcatalog
  obtain ⟨plan, hplan, hsql⟩ := sql_of_compile hcompile
  refine ⟨plan, hplan, hsql, List.filter_sublist, joined_titles_nodup hlayer plan, ?_⟩
  constructor
  · intro hgenuine column hcolumn
    exact notMem_of_genuine hlayer hgenuine hcolumn
  · exact genuine_of_plain hlayer hplan (fun _ => isBare_of_mem_requestedFields hrequest)
      fun _ => isBare_of_mem_sort hrequest

end Compiled

/-- A database with some tables. -/
def tableServer (schema : Schema) : Responder Unit where
  connect _ := (true, ())
  reply command _ :=
    match command with
    | .run ⟨_, [.text table]⟩ _ =>
      (.ok { rows := (schema table).map fun (name, nullable, native) =>
        [.text name, .text nullable, .text native] }, ())
    | _ => (.ok {}, ())

theorem describes_tableServer (schema : Schema) : Describes (tableServer schema) schema :=
  fun _ _ => rfl

/-- The tables of the wells, of their samples and of their logs. -/
def wellTables : Schema := fun table =>
  ([("db_wells", [("db_id", "NO", "integer"), ("site_id", "YES", "integer")]),
    ("db_samples", [("site_id", "YES", "integer"), ("p.h", "YES", "real")]),
    ("db_logs", [("well_id", "YES", "integer"), ("note", "YES", "text")])].lookup table).getD []

/-- A well with all its samples, by their logs. -/
def samplesByLog : QueryParameters where
  objectIds := some "7"
  outFields := some " \"site_id\" , samples.*"
  orderByFields := some "logs.note desc"

theorem references_genuine_wells :
    ∃ catalog request s,
      Join.wells.faults = [] ∧ Describes (tableServer wellTables) wellTables ∧
        (Session.run (tableServer wellTables) (ExceptT.run (Catalog.lookup Join.wells)) ()).value =
          .ok catalog ∧
        samplesByLog.toRequest {} = .ok request ∧ compile Join.wells catalog request = .ok s ∧
        ∃ plan, Plan.make Join.wells catalog request = .ok plan ∧
          plan.relations Join.wells = [Join.samples, Join.logs] ∧
          (plan.sources Join.wells).Genuine Join.wells wellTables request := by
  have hlayer : Join.wells.faults = [] := by decide +kernel
  have hdescribes := describes_tableServer wellTables
  have hcatalog := (Catalog.value_lookup hdescribes Join.wells ()).trans (if_neg (by decide +kernel))
  have hjoined : (samplesByLog.toRequest {} >>=
      Plan.make Join.wells (wellTables.catalog Join.wells)).toOption.map (·.relations Join.wells) =
        some [Join.samples, Join.logs] := by decide +kernel
  obtain ⟨plan, hmade, hrelations⟩ := Option.map_eq_some_iff.1 hjoined
  obtain ⟨request, hrequest, hplan⟩ := exists_ok_of_bind (eq_ok_of_toOption hmade)
  have hcompile := Plan.compile_of_make hplan
  refine ⟨_, request, _, hlayer, hdescribes, hcatalog, hrequest, hcompile, plan, hplan, hrelations, ?_⟩
  obtain ⟨other, hother, -, -, -, hiff⟩ :=
    references_genuine_iff hlayer hdescribes hcatalog hrequest hcompile
  obtain rfl := Except.ok.inj (hplan.symm.trans hother)
  have hcolumns : ∀ column ∈ wellTables.columns Join.wells.table, '.' ∉ column.toList := by
    decide +kernel
  exact hiff.2 fun column hcolumn _ => hcolumns column hcolumn

/-- A column with a period in its name, selected along with all others, is referred to as a column of
a table that is not there. -/
theorem column_with_period_dangles :
    let layer := { Join.wells with relations := [] }
    let tables : Schema := fun table =>
      if table = "db_wells" then [("db_id", "NO", "integer"), ("a.b", "YES", "integer")] else []
    let p : QueryParameters := { outFields := some "*", returnGeometry := some "false" }
    layer.faults = [] ∧ Describes (tableServer tables) tables ∧
      (Session.run (tableServer tables) (ExceptT.run (Catalog.lookup layer)) ()).value =
          .ok (tables.catalog layer) ∧
      ∃ request s plan, p.toRequest {} = .ok request ∧
        compile layer (tables.catalog layer) request = .ok s ∧
        Plan.make layer (tables.catalog layer) request = .ok plan ∧
        s.sql = "SELECT \"source\".\"db_id\" AS \"db_id\", \"a\".\"b\" AS \"a.b\" " ++
          "FROM \"db_wells\" AS \"source\"  WHERE 1=1 ORDER BY \"source\".\"db_id\" LIMIT $1 " ∧
        ⟨"a", "b"⟩ ∈ (plan.sources layer).references ∧
        ¬Resolves layer tables (plan.sources layer).joined ⟨"a", "b"⟩ := by
  intro layer tables p
  have hlayer : layer.faults = [] := by decide +kernel
  have hdescribes := describes_tableServer tables
  have hcatalog := (Catalog.value_lookup hdescribes layer ()).trans (if_neg (by decide +kernel))
  have hsources : (p.toRequest {} >>= Plan.make layer (tables.catalog layer)).toOption.map
      (fun plan => (plan.sources layer).references) =
        some [⟨sourceAlias, "db_id"⟩, ⟨"a", "b"⟩, ⟨sourceAlias, "db_id"⟩] := by decide +kernel
  obtain ⟨plan, hmade, hreferences⟩ := Option.map_eq_some_iff.1 hsources
  obtain ⟨request, hrequest, hplan⟩ := exists_ok_of_bind (eq_ok_of_toOption hmade)
  have hsql : (p.toRequest {} >>= compile layer (tables.catalog layer)).toOption.map (·.sql) =
      some ("SELECT \"source\".\"db_id\" AS \"db_id\", \"a\".\"b\" AS \"a.b\" " ++
        "FROM \"db_wells\" AS \"source\"  WHERE 1=1 ORDER BY \"source\".\"db_id\" LIMIT $1 ") := by
    decide +kernel
  rw [hrequest] at hsql
  obtain ⟨s, hcompile, hsql⟩ := Option.map_eq_some_iff.1 hsql
  -- there are no relations, so nothing but the layer's own table can be referred to
  have hown : ∀ r, Resolves layer tables (plan.sources layer).joined r → r.source = sourceAlias := by
    rintro r (_ | _ | ⟨hjoined, _⟩)
    · rfl
    · rfl
    · cases hjoined
  refine ⟨hlayer, hdescribes, hcatalog, request, s, plan, hrequest, eq_ok_of_toOption hcompile, hplan,
    hsql, ?_, fun hresolves => absurd (hown _ hresolves) (by decide)⟩
  rw [hreferences]
  decide

end GeoLayers
