import GeoLayers.Catalog.Lookup
import GeoLayers.Proofs.Database.Trace

/-!
The catalog that is looked up for a layer. Each table is asked for once; the catalog holds the
columns of the layer's table and of every related table as the database describes them, and it is
the same whether a table was asked for again or its columns were kept.
-/

namespace GeoLayers

open Database

/-- What a database tells of the columns of its tables: the name, whether the column may be null, and
the type. -/
abbrev Schema := String → List (String × String × String)

namespace Schema

/-- The names of the columns of a table. -/
def columns (schema : Schema) (table : String) : List String := (schema table).map Prod.fst

/-- The fields of a table. -/
def fields (schema : Schema) (table : String) : List Field :=
  (schema table).map fun (name, nullable, native) => .ofColumn name native (nullable == "YES")

/-- The catalog of a layer. -/
def catalog (schema : Schema) (layer : Layer) : Catalog :=
  .ofColumns layer (schema.fields layer.table)
    (layer.relations.map fun relation => .ofColumns relation (schema.fields relation.table))

theorem map_name_fields (schema : Schema) (table : String) :
    (schema.fields table).map (·.name) = schema.columns table := by
  rw [fields, columns, List.map_map]
  rfl

variable {schema : Schema} {layer : Layer}

theorem map_name_catalog (schema : Schema) (layer : Layer) :
    (schema.catalog layer).fields.map (·.name) = schema.columns layer.table := by
  rw [← map_name_fields, catalog, Catalog.ofColumns, List.map_map]
  apply List.map_congr_left
  intro field _
  rw [Function.comp_apply]
  split
  · rfl
  · split <;> rfl

theorem mem_columns_of_hasField {name : String} (h : (schema.catalog layer).hasField name = true) :
    name ∈ schema.columns layer.table := by
  rw [Catalog.hasField, Catalog.field?, List.find?_isSome] at h
  obtain ⟨field, hfield, hname⟩ := h
  rw [← map_name_catalog, ← eq_of_beq hname]
  exact List.mem_map_of_mem hfield

/-- The related table with a title is that of a relation. -/
theorem exists_of_related? {title : String} {related : RelatedCatalog}
    (h : (schema.catalog layer).related? title = some related) :
    ∃ relation ∈ layer.relations, relation.title = title ∧
      related.names = (schema.columns relation.table).map relation.qualify := by
  rw [Catalog.related?] at h
  obtain ⟨relation, hrelation, rfl⟩ := List.mem_map.1 (List.mem_of_find?_eq_some h)
  have htitle := List.find?_some h
  refine ⟨relation, hrelation, eq_of_beq htitle, ?_⟩
  rw [← map_name_fields, RelatedCatalog.names, RelatedCatalog.ofColumns, List.map_map, List.map_map]
  rfl

end Schema

variable {σ : Type} {responder : Responder σ} {schema : Schema}

/-- A database answers the questions for the columns of tables by a schema. -/
def Describes (responder : Responder σ) (schema : Schema) : Prop :=
  ∀ table state,
    (responder.reply (.run (Catalog.columnsStatement table) [.text, .text, .text]) state).1 =
      .ok { rows := (schema table).map fun (name, nullable, native) =>
        [.text name, .text nullable, .text native] }

namespace Catalog

/-- Columns that are kept are those of the schema. -/
def Known.Agrees (known : Known) (schema : Schema) : Prop :=
  ∀ table columns, known.find? table = some columns → columns = schema.fields table

theorem Known.agrees_empty (schema : Schema) : Known.Agrees .empty schema := nofun

theorem Known.Agrees.insert {known : Known} (h : known.Agrees schema) (table : String) :
    Known.Agrees (Dictionary.insert known table (schema.fields table)) schema := by
  intro other columns hfound
  rw [Dictionary.find?_insert] at hfound
  split at hfound
  case isTrue heq =>
    rw [heq]
    exact (Option.some.inj hfound).symm
  case isFalse => exact h other columns hfound

theorem mapM_columnOfRow? (rows : List (String × String × String)) :
    (rows.map fun (name, nullable, native) => [Cell.text name, .text nullable, .text native]).mapM
      columnOfRow? =
      some (rows.map fun (name, nullable, native) => .ofColumn name native (nullable == "YES")) := by
  induction rows with
  | nil => rfl
  | cons row rows ih =>
      rw [List.map_cons, List.mapM_cons, ih]
      rfl

section Lookup

variable (hdescribes : Describes responder schema)

include hdescribes

theorem value_askColumns (table : String) (state : σ) :
    (Session.run responder (ExceptT.run (askColumns table)) state).value =
      .ok (schema.fields table) := by
  unfold askColumns
  rw [Work.value_run_bind (Work.value_runPlain (hdescribes table state)), Work.readRows,
    mapM_columnOfRow?]
  rfl

theorem value_columnsOf {known : Known} (hknown : known.Agrees schema) (table : String) (state : σ) :
    ∃ known' : Known, known'.Agrees schema ∧
      (Session.run responder (ExceptT.run (columnsOf known table)) state).value =
        .ok (schema.fields table, known') := by
  unfold columnsOf
  cases hfound : known.find? table with
  | some columns =>
      refine ⟨known, hknown, ?_⟩
      rw [hknown table columns hfound]
      rfl
  | none =>
      refine ⟨_, hknown.insert table, ?_⟩
      dsimp only
      rw [Work.value_run_bind (value_askColumns hdescribes table state)]
      rfl

theorem value_relatedOf {known : Known} (hknown : known.Agrees schema) (relations : List Relation)
    (state : σ) :
    (Session.run responder (ExceptT.run (relatedOf known relations)) state).value =
      .ok (relations.map fun relation => .ofColumns relation (schema.fields relation.table)) := by
  induction relations generalizing known state with
  | nil => rfl
  | cons relation relations ih =>
      obtain ⟨known', hknown', hvalue⟩ := value_columnsOf hdescribes hknown relation.table state
      unfold relatedOf
      rw [Work.value_run_bind hvalue, Work.value_run_bind (ih hknown' _)]
      rfl

/-- The catalog that is looked up is that of the schema, if the layer's own table has any columns. -/
theorem value_lookup (layer : Layer) (state : σ) :
    (Session.run responder (ExceptT.run (lookup layer)) state).value =
      if (schema.fields layer.table).isEmpty then .error (.missing (.table layer.table layer.name))
      else .ok (schema.catalog layer) := by
  obtain ⟨known, hknown, hvalue⟩ :=
    value_columnsOf hdescribes (Known.agrees_empty schema) layer.table state
  unfold lookup
  rw [Work.value_run_bind hvalue]
  dsimp only
  split
  case isTrue => rfl
  case isFalse =>
    rw [Work.value_run_bind (value_relatedOf hdescribes hknown _ _)]
    rfl

theorem eq_of_lookup {layer : Layer} {catalog : Catalog} {state : σ}
    (h : (Session.run responder (ExceptT.run (lookup layer)) state).value = .ok catalog) :
    catalog = schema.catalog layer := by
  rw [value_lookup hdescribes] at h
  split at h
  case isTrue => cases h
  case isFalse => exact (Except.ok.inj h).symm

end Lookup

end Catalog

end GeoLayers
