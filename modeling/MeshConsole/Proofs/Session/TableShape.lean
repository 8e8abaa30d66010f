import MeshConsole.Proofs.Session.Tables
import MeshConsole.Proofs.Table.Shape

/-!
# The shape of tables over whole sessions

Whatever happens in a session, the rows of a table are rendered from records
(`Dashboard.ShowsRecords`): what a load brings was decoded, a sort keeps the rows, and everything else
leaves them or takes them away. So each table keeps the shape that its rows have when they are rendered
(`steps_table_shape`).

    payload ──IsDecoded──▶ records ──Renders──▶ rows ──sort──▶ rows
-/

namespace MeshConsole

open Json (Fields)

/-! ## Decoded records -/

namespace Payload

variable {α : Type}

/-- A decoded record is made of fields. -/
theorem IsDecoded.exists_fields {names : List String} {build : Fields → α} {payload : α}
    (h : @IsDecoded α (.record names build) payload) : ∃ fields, payload = build fields := by
  obtain ⟨value, hvalue⟩ := h
  obtain ⟨fields, -, hbuild⟩ := Option.map_eq_some_iff.mp hvalue
  exact ⟨fields, hbuild.symm⟩

/-- Null stands for no payload, and any other value for what it is decoded to. -/
theorem IsDecoded.of_some [Payload α] {payload : α} (h : IsDecoded (some payload)) :
    IsDecoded payload := by
  obtain ⟨value, hvalue⟩ := h
  cases value with
  | null =>
      -- Null is decoded to none.
      cases Option.some.inj hvalue
  | _ =>
      obtain ⟨found, hfound, heq⟩ := Option.map_eq_some_iff.mp hvalue
      exact ⟨_, hfound.trans (congrArg some (Option.some.inj heq))⟩

/-- The payloads among the items of a field were decoded. -/
theorem isDecoded_of_mem_elements [Payload α] {fields : Fields} {name : String} {payload : α}
    (h : payload ∈ fields.elements name) : IsDecoded payload := by
  obtain ⟨value, -, hvalue⟩ := List.mem_filterMap.mp h
  exact ⟨value, hvalue⟩

end Payload

/-- A status is made of fields, also that of a node that sent null. -/
theorem Status.exists_fields {found : Option Status} (h : Payload.IsDecoded found) :
    ∃ fields, found.getD .absent = .ofFields fields := by
  cases found with
  | none => exact ⟨[], rfl⟩
  | some status => exact h.of_some.exists_fields

theorem Connections.exists_fields {found : Option Connections} (h : Payload.IsDecoded found) :
    ∃ fields, found.getD .absent = .ofFields fields := by
  cases found with
  | none => exact ⟨[], rfl⟩
  | some connections => exact h.of_some.exists_fields

/-- Only entries with a name are taken into a directory. -/
theorem Directory.isNamed_of_isDecoded {directory : Directory} (h : Payload.IsDecoded directory) :
    directory.IsNamed := by
  obtain ⟨value, hvalue⟩ := h
  obtain rfl := Option.some.inj hvalue
  intro entry hentry
  cases value with
  | object fields =>
      obtain ⟨⟨key, node⟩, -, hnamed⟩ := List.mem_filterMap.mp hentry
      obtain ⟨name, hname, rfl⟩ := Option.map_eq_some_iff.mp hnamed
      -- The name is the text of a value.
      obtain ⟨text, -, htext⟩ := Option.bind_eq_some_iff.mp hname
      rintro rfl
      exact text.cellText?_ne_empty htext
  | _ => cases hentry

/-! ## Rows of records -/

/-- A row of a table that is rendered from some record. -/
def TableId.ShowsRecord (id : TableId) (row : Row) : Prop := ∃ fields, id.Renders fields row

namespace Table

/-- All rows of a table are rendered from records. -/
def ShowsRecords (table : Table) : Prop := ∀ row ∈ table.rows, table.id.ShowsRecord row

theorem ShowsRecords.sortBy {table : Table} (h : table.ShowsRecords) (key : String) :
    (table.sortBy key).ShowsRecords :=
  fun row hrow => h row ((isStableSort_sortBy table.id key table.rows).perm.mem_iff.mp hrow)

theorem ShowsRecords.sortBy? {table : Table} (h : table.ShowsRecords) (key : Option String) :
    (Table.mk table.id (table.sortBy? key).rows).ShowsRecords :=
  fun row hrow => h row ((perm_sortBy? key table).mem_iff.mp hrow)

/-- The records among the items of a field, each in a row of its own. -/
theorem showsRecords_of_elements {α : Type} {names : List String} {build : Fields → α}
    {id : TableId} {row : α → Row} (hrenders : ∀ fields, id.Renders fields (row (build fields)))
    (fields : Fields) (name : String) :
    (Table.mk id ((@Fields.elements α (.record names build) fields name).map row)).ShowsRecords := by
  intro shown hshown
  obtain ⟨record, hrecord, rfl⟩ := List.mem_map.mp hshown
  obtain ⟨found, rfl⟩ :=
    (@Payload.isDecoded_of_mem_elements α (.record names build) _ _ _ hrecord).exists_fields
  exact ⟨found, hrenders found⟩

theorem showsRecords_ofHops (hops : List Hop) : (ofHops hops).ShowsRecords := by
  intro row hrow
  obtain ⟨hop, -, rfl⟩ := List.mem_map.mp hrow
  exact ⟨[], .hop hop⟩

end Table

/-! ## Dashboards -/

/-- All rows of a dashboard are rendered from records, and the names beside later rows are not empty.
-/
structure Dashboard.ShowsRecords (dashboard : Dashboard) : Prop where
  table : ∀ id, (dashboard.table id).ShowsRecords
  directory : ∀ known ∈ dashboard.directory, known.IsNamed

namespace Dashboard.ShowsRecords

variable {dashboard : Dashboard}

theorem initial : Dashboard.ShowsRecords .initial := by
  refine ⟨fun id row hrow => ?_, fun known hknown => absurd hknown (Option.not_mem_none known)⟩
  cases id <;> cases hrow

theorem of_eq {after : Dashboard} (h : dashboard.ShowsRecords)
    (hrows : after.rows = dashboard.rows) (hdirectory : after.directory = dashboard.directory) :
    after.ShowsRecords := by
  refine ⟨fun id => ?_, hdirectory ▸ h.directory⟩
  have htable : after.table id = dashboard.table id := by
    unfold Dashboard.table
    rw [hrows]
  rw [htable]
  exact h.table id

/-- Another region of a trace, whose rows are hops. -/
theorem withTrace (h : dashboard.ShowsRecords) {region : TraceRegion}
    (hregion : (Table.mk .traceroute region.rows).ShowsRecords) :
    { dashboard with traceroute := region }.ShowsRecords := by
  refine ⟨fun id => ?_, h.directory⟩
  have htable := h.table id
  cases id with
  | traceroute => exact hregion
  | _ => exact htable

theorem showStatus (h : dashboard.ShowsRecords) (thresholds : Thresholds) {found : Option Status}
    (hfound : Payload.IsDecoded found) (olsr2Info : String) :
    (dashboard.showStatus thresholds (found.getD .absent) olsr2Info).ShowsRecords := by
  obtain ⟨fields, hfields⟩ := Status.exists_fields hfound
  rw [hfields, Dashboard.showStatus_eq]
  let status := Status.ofFields fields
  have hdevices : (Table.ofDevices status.radios status.devices).ShowsRecords :=
    Table.showsRecords_of_elements (.device status.radios) fields "devices"
  have hlinks : (Table.ofLinks status.links).ShowsRecords :=
    Table.showsRecords_of_elements .link fields "links"
  have hneighbors : (Table.ofNeighbors status.neighbors).ShowsRecords :=
    Table.showsRecords_of_elements .neighbor fields "neighbors"
  refine ⟨fun id => ?_, h.directory⟩
  cases id with
  | devices => exact hdevices.sortBy? _
  | links => exact hlinks.sortBy? _
  | neighbors => exact hneighbors.sortBy? _
  | connections => exact h.table .connections
  | traceroute =>
      show (Table.mk .traceroute (TraceRegion.afterStatus _ _).rows).ShowsRecords
      unfold TraceRegion.afterStatus
      split
      · exact h.table .traceroute
      · exact Table.showsRecords_ofHops _

theorem showConnections (h : dashboard.ShowsRecords) {found : Option Connections}
    (hfound : Payload.IsDecoded found) :
    (dashboard.showConnections (.ok found)).ShowsRecords := by
  obtain ⟨fields, hfields⟩ := Connections.exists_fields hfound
  rw [Dashboard.showConnections_ok, hfields]
  have hports :
      (Table.ofPorts dashboard.directory (Connections.ofFields fields).ports).ShowsRecords :=
    Table.showsRecords_of_elements (.port h.directory) fields "ports"
  refine ⟨fun id => ?_, h.directory⟩
  have htable := h.table id
  cases id with
  | connections => exact hports.sortBy? _
  | _ => exact htable

theorem keepDirectory (h : dashboard.ShowsRecords) {found : Directory}
    (hfound : Payload.IsDecoded found) : (dashboard.keepDirectory found).ShowsRecords := by
  refine ⟨fun id => ?_, fun known hknown => ?_⟩
  · have htable := h.table id
    cases id <;> exact htable
  · obtain rfl := Option.some.inj hknown
    exact Directory.isNamed_of_isDecoded hfound

theorem awaitTrace (h : dashboard.ShowsRecords) (target : String) :
    (dashboard.awaitTrace target).ShowsRecords :=
  h.withTrace fun _ hrow => absurd hrow List.not_mem_nil

theorem showTrace (h : dashboard.ShowsRecords) (target : String) (outcome : Outcome String) :
    (dashboard.showTrace target outcome).ShowsRecords := by
  cases outcome with
  | ok output => exact h.withTrace (Table.showsRecords_ofHops _)
  | error failure => exact h.of_eq rfl rfl

/-- A sort keeps the rows of its table, and leaves the other tables alone. -/
theorem sort (h : dashboard.ShowsRecords) (id : TableId) (key : String) :
    (dashboard.sort id key).ShowsRecords := by
  have hsorted := (h.table id).sortBy key
  refine ⟨fun other => ?_, by cases id <;> exact h.directory⟩
  have hother := h.table other
  cases id <;> cases other <;> first | exact hsorted | exact hother

/-- The rows of a dashboard are rendered from records whatever happens in a session. -/
theorem invariant : OverlapInvariant fun _ dashboard => dashboard.ShowsRecords where
  quiet h hsame := h.of_eq hsame.rows_eq hsame.directory_eq
  status thresholds _ olsr2Info hfound h := h.showStatus thresholds hfound olsr2Info
  directory hfound h := h.keepDirectory hfound
  ports hfound h := h.showConnections hfound
  requested h := h.of_eq rfl rfl
  began _ h := h.awaitTrace _
  traced outcome _ h := (h.awaitTrace _).showTrace _ outcome
  sorted id key h := h.sort id key
  late target outcome h := h.showTrace target outcome

end Dashboard.ShowsRecords

/-! ## Sessions -/

open Session (dashboardAfter)

/-- The names under which a table stands in the document of a dashboard. -/
def TableId.path : TableId → List String
  | .connections => ["connections", "table"]
  | .traceroute => ["traceroute", "table"]
  | id => [id.name]

/-- The value that stands in a document under names, one inside the other. -/
def Json.at? (path : List String) (document : Json) : Option Json :=
  path.foldl (fun found name => found.bind (Json.field? name)) (some document)

theorem Dashboard.at?_path_document (dashboard : Dashboard) (id : TableId) :
    dashboard.document.at? id.path = some (dashboard.table id).toJson := by
  cases id <;> rfl

theorem Session.showsRecords_dashboardAfter (node : Node) (thresholds : Thresholds)
    (steps : List Step) : (dashboardAfter node thresholds steps).ShowsRecords :=
  @OverlapInvariant.steps _ Dashboard.ShowsRecords.invariant [] _ .initial
    (Session.WaitsForJobs.initial node thresholds) steps

/-- **The shape of tables.** At every point of a session each table stands in the document under its
own name and with its own columns, and every row of it is rendered from a record and has the shape of
the table: one cell for each column; links for the addresses and names of hops and nowhere else; at
most one line in a cell, which is not empty, but for the addresses of a device and for what is known
of the hosts behind a port. The cell of a field is empty if and only if the field is missing or falsy.
The addresses of a device have two lines. The names of hosts are left out altogether, or they stand
beside the addresses and not all of them are empty. -/
theorem steps_table_shape (node : Node) (thresholds : Thresholds) (steps : List Step)
    (id : TableId) :
    let dashboard := dashboardAfter node thresholds steps
    (∃ table, dashboard.document.at? id.path = some table ∧
        table.field? "id" = some (.text id.name) ∧
        table.field? "columns" = some (Json.ofList Column.toJson id.columns) ∧
        table.field? "rows" = some (Json.ofList Row.toJson (dashboard.rows id))) ∧
      ∀ row ∈ dashboard.rows id, ∃ fields, id.Renders fields row ∧ id.Shape fields row := by
  intro dashboard
  refine ⟨⟨_, dashboard.at?_path_document id, rfl, rfl, rfl⟩, fun row hrow => ?_⟩
  have hshows : dashboard.ShowsRecords :=
    Session.showsRecords_dashboardAfter node thresholds steps
  obtain ⟨fields, hrenders⟩ := hshows.table id row hrow
  exact ⟨fields, hrenders, hrenders.shape⟩

end MeshConsole
