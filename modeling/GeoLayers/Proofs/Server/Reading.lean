import GeoLayers.Proofs.Database.Permission
import GeoLayers.Server.Basic

/-!
Commands that read and commands that write. All that is asked to describe a service and its layers,
to answer a query, to count the rows at places and to draw a layer is a statement that starts with
`SELECT`, and so is every question for columns, whoever needs them.
-/

namespace GeoLayers

open Database

/-- Whether a statement starts with a text. -/
def Statement.StartsWith (start : String) (statement : Statement) : Prop :=
  start.toList <+: statement.sql.toList

namespace Database.Command

/-- Whether a command is a statement that reads. -/
def Reads : Command → Prop
  | .run statement _ => statement.StartsWith "SELECT "
  | _ => False

/-- Whether a command changes rows, or starts or ends a transaction. -/
def Writes : Command → Prop
  | .run statement _ => statement.StartsWith "INSERT" ∨ statement.StartsWith "UPDATE" ∨
      statement.StartsWith "DELETE"
  | _ => True

theorem Reads.not_writes {command : Command} (h : command.Reads) : ¬command.Writes := by
  cases command with
  | start => cases h
  | commit => cases h
  | rollback => cases h
  | run statement columns =>
      obtain ⟨rest, hrest⟩ : statement.StartsWith "SELECT " := h
      rintro (⟨other, hother⟩ | ⟨other, hother⟩ | ⟨other, hother⟩)
      all_goals
        rw [← hrest] at hother
        exact absurd (List.cons.inj hother).1 (by decide)

/-- A text that starts a statement is seen from the text alone that comes first. -/
theorem reads_run {start rest : String} {binds : List Bind} {columns : List ColumnType}
    (h : "SELECT ".toList <+: start.toList) :
    (run ⟨start ++ rest, binds⟩ columns).Reads := by
  rw [Reads, Statement.StartsWith, String.toList_append]
  exact h.trans (List.prefix_append _ _)

end Database.Command

open Database.Command

theorem reads_asJsonRows (statement : Statement) (columns : List ColumnType) :
    (run statement.asJsonRows columns).Reads := by
  unfold Statement.asJsonRows
  rw [String.append_assoc]
  exact reads_run (by decide)

theorem permitted_loadRows (statement : Statement) : Permitted Reads (loadRows statement) := by
  apply permitted_bind (Work.sends_run (reads_asJsonRows statement _)).permitted
  intro answer
  exact permitted_bind (Work.permitted_readRows answer) fun _ => permitted_pure _

namespace Catalog

theorem reads_columnsStatement (table : String) (columns : List ColumnType) :
    (run (columnsStatement table) columns).Reads := by
  unfold columnsStatement
  rw [String.append_assoc]
  exact reads_run (by decide)

theorem permitted_askColumns (table : String) : Permitted Reads (askColumns table) := by
  apply permitted_bind (Work.sends_runPlain (reads_columnsStatement table _)).permitted
  exact fun answer => Work.permitted_readRows answer

theorem permitted_columnsOf (known : Known) (table : String) :
    Permitted Reads (columnsOf known table) := by
  unfold columnsOf
  split
  · exact permitted_pure _
  · exact permitted_bind (permitted_askColumns table) fun _ => permitted_pure _

theorem permitted_relatedOf (known : Known) (relations : List Relation) :
    Permitted Reads (relatedOf known relations) := by
  induction relations generalizing known with
  | nil => exact permitted_pure _
  | cons relation relations ih =>
      apply permitted_bind (permitted_columnsOf known relation.table)
      intro (columns, known)
      exact permitted_bind (ih known) fun _ => permitted_pure _

theorem permitted_lookup (layer : Layer) : Permitted Reads (lookup layer) := by
  apply permitted_bind (permitted_columnsOf .empty layer.table)
  intro (columns, known)
  have hrelated : Permitted Reads (do
      let related ← relatedOf known layer.relations
      pure (Catalog.ofColumns layer columns related)) :=
    permitted_bind (permitted_relatedOf known layer.relations) fun _ => permitted_pure _
  dsimp only
  split
  · exact permitted_bind (permitted_throw _) fun _ => hrelated
  · exact hrelated

end Catalog

namespace Layer

theorem permitted_askExtent (layer : Layer) : Permitted Reads layer.askExtent := by
  have hreads (columns : List ColumnType) : (run layer.extentStatement columns).Reads := by
    unfold extentStatement
    simp only [String.append_assoc]
    exact reads_run (by decide)
  apply permitted_bind (Work.sends_ask (hreads _)).permitted
  intro reply
  cases reply <;> exact permitted_pure _

theorem permitted_askTimeExtent (layer : Layer) : Permitted Reads layer.askTimeExtent := by
  have hreads (field : String) (columns : List ColumnType) :
      (run (layer.timeStatement field) columns).Reads := by
    unfold timeStatement
    simp only [String.append_assoc]
    exact reads_run (by decide)
  unfold askTimeExtent
  split
  · exact permitted_pure _
  · exact permitted_bind (Work.sends_runPlain (hreads _ _)).permitted fun _ => permitted_pure _

theorem permitted_askPlaces (layer : Layer) : Permitted Reads layer.askPlaces := by
  apply permitted_bind (permitted_loadRows layer.placesStatement)
  intro rows
  exact permitted_mapM (fun row => Work.permitted_check (placeOfRow row)) rows

end Layer

namespace Server

variable (server : Server) (service : String) (id : Int)

theorem permitted_openLayer (layer : Layer) : Permitted Reads (openLayer layer) :=
  permitted_bind Work.permitted_checkout fun _ => Catalog.permitted_lookup layer

theorem permitted_layerInfo : Permitted Reads (server.layerInfo service id) := by
  apply permitted_bind (Work.permitted_check _)
  intro (_, layer)
  apply permitted_bind (permitted_openLayer layer)
  intro catalog
  apply permitted_bind layer.permitted_askExtent
  intro extent
  exact permitted_bind layer.permitted_askTimeExtent fun _ => permitted_pure _

theorem permitted_query (parameters : QueryParameters) :
    Permitted Reads (server.query service id parameters) := by
  apply permitted_bind (Work.permitted_check _)
  intro (service, layer)
  apply permitted_bind (Work.permitted_check _)
  intro request
  apply permitted_bind (permitted_openLayer layer)
  intro catalog
  have hpage : ∀ request, Permitted Reads (Page.load layer catalog request) := by
    intro request
    apply permitted_bind (Work.permitted_check _)
    intro statement
    exact permitted_bind (permitted_loadRows statement) fun _ => permitted_pure _
  apply permitted_bind (hpage _)
  intro page
  split <;> exact Work.permitted_check _

theorem permitted_timeQuery : Permitted Reads (server.timeQuery service id) := by
  apply permitted_bind (Work.permitted_check _)
  intro (_, layer)
  have hplaces : Permitted Reads (do
      Work.checkout
      let places ← layer.askPlaces
      pure (layer.placesJson places)) :=
    permitted_bind Work.permitted_checkout fun _ =>
      permitted_bind layer.permitted_askPlaces fun _ => permitted_pure _
  dsimp only
  split
  · exact permitted_bind (permitted_throw _) fun _ => hplaces
  · exact hplaces

theorem permitted_generateRenderer (parameters : RendererParameters) :
    Permitted Reads (server.generateRenderer service id parameters) := by
  apply permitted_bind (Work.permitted_check _)
  intro (_, layer)
  have hrest : ∀ text : String, Permitted Reads (do
      let definition ← Classification.Definition.ofText text
      let catalog ← openLayer layer
      definition.load layer catalog parameters.clause : Work Classification.Renderer) := by
    intro text
    apply permitted_bind (Work.permitted_check _)
    intro definition
    apply permitted_bind (permitted_openLayer layer)
    intro catalog
    apply permitted_bind (Work.permitted_check _)
    intro statement
    exact permitted_bind (permitted_loadRows statement) fun _ => permitted_pure _
  dsimp only
  split
  · exact permitted_bind (permitted_pure _) hrest
  · exact permitted_bind (permitted_throw _) hrest

end Server

end GeoLayers
