import GeoLayers.Proofs.Database.Trace
import GeoLayers.Server.Basic

/-!
What the flags for object ids and for a count do to a query that is answered with a table. A table
holds features, so both flags are dropped before the query is made; but the flag for object ids has
been looked at by then, and has taken the limit and the start of the page away. The flag for a count
changes nothing, and the other one nothing for queries that give object ids themselves.
-/

namespace GeoLayers

open Database

namespace QueryRequest

/-- The query without a limit, from its first row on. -/
def unpaged (request : QueryRequest) : QueryRequest := { request with limit := 0, offset := 0 }

end QueryRequest

namespace QueryParameters

variable (settings : Settings) (p : QueryParameters)

/-- The parameters with other texts for the two flags. -/
def withFlags (ids count : Option String) : QueryParameters :=
  { p with returnIdsOnly := ids, returnCountOnly := count }

/-- The parameters without a limit and a start. -/
def withoutPage : QueryParameters := { p with limit := none, offset := none }

/-- The query that parameters ask for if its answer is a table. -/
def toTableRequest : Except Error QueryRequest := QueryRequest.forTable <$> p.toRequest settings

/-- The table query for object ids and a page that have been read. Nothing here looks at the flags. -/
def tableOf (objectIds : List Int) (page : Int × Int) : Except Error QueryRequest := do
  let extent ← Parameter.filterGeometry p.geometryType p.geometry
  let time ← match p.time with
    | some raw => TimeRange.ofText raw
    | none => pure none
  let outSrid ← Parameter.outSrid p.outSR
  pure {
    fields := (Parameter.listItems p.outFields).map bareName
    clause := Parameter.nonBlank p.clause
    sort := (Parameter.listItems p.orderByFields).filterMap SortField.ofText?
    limit := page.1
    offset := page.2
    withGeometry := Parameter.flag p.returnGeometry true
    objectIds, extent, time, outSrid }

theorem toTableRequest_eq : p.toTableRequest settings = (do
    let objectIds ← Parameter.objectIds p.objectIds
    let page ← p.paging settings (Parameter.flag p.returnIdsOnly false) objectIds
    p.tableOf objectIds page) := by
  unfold toTableRequest toRequest tableOf
  simp only [map_bind]
  cases p.time with
  | none => simp only [map_bind, map_pure, QueryRequest.forTable]
  | some raw => simp only [map_bind, map_pure, QueryRequest.forTable]

/-- The page fills in two numbers of the query and decides nothing else. -/
theorem unpaged_tableOf (objectIds : List Int) (page : Int × Int) :
    QueryRequest.unpaged <$> p.tableOf objectIds page = p.tableOf objectIds (0, 0) := by
  unfold tableOf
  simp only [map_bind]
  cases p.time with
  | none => simp only [map_bind, map_pure, QueryRequest.unpaged]
  | some raw => simp only [map_bind, map_pure, QueryRequest.unpaged]

theorem paging_of_objectIds {objectIds : List Int} (h : objectIds ≠ []) (idsOnly : Bool) :
    p.paging settings idsOnly objectIds = .ok (0, 0) := by
  have hids : (!objectIds.isEmpty) = true := by simpa using h
  rw [paging, hids, Bool.or_true, if_pos rfl]

theorem paging_of_idsOnly (objectIds : List Int) :
    p.paging settings true objectIds = .ok (0, 0) := by
  rw [paging, Bool.true_or, if_pos rfl]

/-- Nothing in parameters without a limit and a start can be wrong with the page. -/
theorem exists_paging_withoutPage (idsOnly : Bool) (objectIds : List Int) :
    ∃ page, p.withoutPage.paging settings idsOnly objectIds = .ok page := by
  unfold paging
  split
  · exact ⟨_, rfl⟩
  · exact ⟨_, rfl⟩

theorem toTableRequest_withFlags (ids count : Option String) :
    (p.withFlags ids count).toTableRequest settings = (do
      let objectIds ← Parameter.objectIds p.objectIds
      let page ← p.paging settings (Parameter.flag ids false) objectIds
      p.tableOf objectIds page) :=
  toTableRequest_eq settings (p.withFlags ids count)

/-- The flags make no difference if they agree on the object ids, or if object ids are given. -/
theorem toTableRequest_congr {ids ids' : Option String} (count count' : Option String)
    (h : Parameter.flag ids false = Parameter.flag ids' false ∨
      Parameter.objectIds p.objectIds ≠ .ok []) :
    (p.withFlags ids count).toTableRequest settings =
      (p.withFlags ids' count').toTableRequest settings := by
  rw [toTableRequest_withFlags, toTableRequest_withFlags]
  rcases h with hflag | hids
  · rw [hflag]
  · cases hread : Parameter.objectIds p.objectIds with
    | error e => rfl
    | ok objectIds =>
        have hne : objectIds ≠ [] := by
          intro hnil
          exact hids (by rw [hread, hnil])
        have hpage := p.paging_of_objectIds settings hne
        change (do
          let page ← p.paging settings (Parameter.flag ids false) objectIds
          p.tableOf objectIds page) = (do
          let page ← p.paging settings (Parameter.flag ids' false) objectIds
          p.tableOf objectIds page)
        rw [hpage, hpage]

/-- The flag for object ids takes away the limit and the start, and with them what is wrong with
their texts. -/
theorem toTableRequest_of_flag {ids : Option String} (count : Option String)
    (h : Parameter.flag ids false = true) :
    (p.withFlags ids count).toTableRequest settings =
      QueryRequest.unpaged <$> (p.withoutPage.withFlags none none).toTableRequest settings := by
  rw [toTableRequest_withFlags, toTableRequest_withFlags, h, map_bind]
  congr 1
  funext objectIds
  obtain ⟨page, hpage⟩ := p.exists_paging_withoutPage settings false objectIds
  change (do
    let page ← p.paging settings true objectIds
    p.tableOf objectIds page) = QueryRequest.unpaged <$> (do
    let page ← p.withoutPage.paging settings false objectIds
    p.tableOf objectIds page)
  rw [hpage, paging_of_idsOnly]
  exact (p.unpaged_tableOf objectIds page).symm

end QueryParameters

namespace Server

/-- The answer to a table query of a layer. -/
def tableAnswer (layer : Layer) (request : QueryRequest) : Work QueryAnswer := do
  let catalog ← openLayer layer
  let page ← Page.load layer catalog request
  QueryAnswer.csvOfPage layer request page

/-- What is sent for a query with a table for its answer depends on the table query alone. -/
theorem query_of_wantsCsv (server : Server) (service : String) (id : Int) {p : QueryParameters}
    (hcsv : p.wantsCsv = true) : server.query service id p = (do
      let (_, layer) ← server.registry.layer service id
      let request ← p.toTableRequest server.settings
      tableAnswer layer request) := by
  unfold query QueryParameters.toTableRequest tableAnswer
  simp only [hcsv, if_true]
  cases server.registry.layer service id with
  | error e => rfl
  | ok found => cases p.toRequest server.settings <;> rfl

/-- Requests for a table that differ in the flags for object ids and a count alone are one session
with the database, with the same statements, parameters and result whatever is replied, if the flags
for object ids mean the same or object ids are given. -/
theorem query_withFlags_congr (server : Server) (service : String) (id : Int) (p : QueryParameters)
    {ids ids' : Option String} (count count' : Option String) (hcsv : p.wantsCsv = true)
    (h : Parameter.flag ids false = Parameter.flag ids' false ∨
      Parameter.objectIds p.objectIds ≠ .ok []) :
    server.query service id (p.withFlags ids count) =
      server.query service id (p.withFlags ids' count') := by
  have hcsv' (ids count : Option String) : (p.withFlags ids count).wantsCsv = true := hcsv
  rw [query_of_wantsCsv server service id (hcsv' ids count),
    query_of_wantsCsv server service id (hcsv' ids' count'),
    p.toTableRequest_congr server.settings count count' h]

/-- A service with one layer of wells. -/
def wells : Server where
  registry :=
    ⟨[{ id := "wells", layers := [{ id := 0, name := "Wells", table := "db_wells", kind := .point }] }],
      by decide +kernel⟩

/-- A database with a table of wells that has no rows. -/
def emptyWells : Responder Unit where
  connect _ := (true, ())
  reply command _ :=
    match command with
    | .run _ [.text, .text, .text] => (.ok { rows := [[.text "db_id", .text "NO", .text "integer"]] }, ())
    | _ => (.ok {}, ())

/-- The statements that are sent to the wells for a query. -/
def wellStatements (p : QueryParameters) : List Statement :=
  (Session.run emptyWells (ExceptT.run (wells.query "wells" 0 p)) ()).statements

/-- Whether a statement is told the limit of the settings, with the one row more. -/
def bindsLimit (statement : Statement) : Bool :=
  statement.binds.any fun bind =>
    match bind with
    | .bigInt value => value == wells.settings.defaultLimit + 1
    | _ => false

/-- A table of all wells has a limit, and none if the flag for object ids is set besides. -/
theorem table_of_ids_unlimited :
    let p : QueryParameters := { format := some "csv" }
    (wellStatements (p.withFlags none none)).map bindsLimit = [false, true] ∧
      (wellStatements (p.withFlags (some "true") none)).map bindsLimit = [false, false] := by
  decide +kernel

theorem query_withFlags_congr_wells :
    let p : QueryParameters := { format := some " CSV", limit := some "5" }
    p.wantsCsv = true ∧
      (Parameter.flag (some "1") false = Parameter.flag (some "TRUE ") false ∨
        Parameter.objectIds p.objectIds ≠ .ok []) ∧
      wells.query "wells" 0 (p.withFlags (some "1") none) =
        wells.query "wells" 0 (p.withFlags (some "TRUE ") (some "true")) := by
  intro p
  have hcsv : p.wantsCsv = true := by decide +kernel
  have hflag : Parameter.flag (some "1") false = Parameter.flag (some "TRUE ") false := by
    decide +kernel
  exact ⟨hcsv, .inl hflag, query_withFlags_congr wells "wells" 0 p none (some "true") hcsv (.inl hflag)⟩

end Server

end GeoLayers
