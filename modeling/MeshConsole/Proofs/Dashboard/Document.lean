import MeshConsole.Dashboard.Document
import MeshConsole.Proofs.Json.Layouts

/-!
# The document read back

A program that reads the document finds in it all that the dashboard shows. The reader below is as
strict as such a program can be: each object must have exactly the fields that it is expected to
have, whatever their order, and each field a value of the expected kind.

    Dashboard ──document──▶ Json ──compact──▶ text
        │                                      │ read?
      shown                                    ▼
    Dashboard ◀──ofDocument?─────────────── Json, canonical

What comes back is the dashboard without that which is only remembered
(`Dashboard.read?_document`). It comes back since no object of the document repeats a key, so that
reading brings the fields into the order of their keys and changes nothing else.
-/

namespace MeshConsole

namespace Json

/-! ## Values of expected kinds -/

/-- A text. -/
def asText? : Json → Option String
  | .text s => some s
  | _ => none

/-- A truth value. -/
def asBool? : Json → Option Bool
  | .bool b => some b
  | _ => none

/-- Null, or a value of the expected kind. -/
def optional? {α : Type} (decode? : Json → Option α) : Json → Option (Option α)
  | .null => some none
  | value => (decode? value).map some

/-- An array of values of the expected kind. -/
def listOf? {α : Type} (decode? : Json → Option α) (value : Json) : Option (List α) :=
  value.items?.bind fun items => items.mapM decode?

/-- The values under the given names, in the order of the names. The object must have a field of
each name and no other field. -/
def valuesOf? (names : List String) : Json → Option (List Json)
  | .object fields =>
    if (fields.map Prod.fst).Perm names then names.mapM fun name => fields.lookup name else none
  | _ => none

/-! ## Values that come back -/

/-- Every value comes back from the JSON that it is written as. -/
def Restores {α : Type} (decode? : Json → Option α) (encode : α → Json) : Prop :=
  ∀ value, decode? (encode value).canonical = some value

theorem mapM_eq_some {α β : Type} {decode? : α → Option β} {decode : α → β} {values : List α}
    (h : ∀ value ∈ values, decode? value = some (decode value)) :
    values.mapM decode? = some (values.map decode) := by
  induction values with
  | nil => rfl
  | cons value values ih =>
      obtain ⟨hvalue, hvalues⟩ := List.forall_mem_cons.mp h
      rw [List.mapM_cons, hvalue, ih hvalues]
      rfl

theorem restores_text : Restores asText? .text := fun _ => rfl

theorem restores_bool : Restores asBool? .bool := fun _ => rfl

section Restores

variable {α : Type} {decode? : Json → Option α} {encode : α → Json}

theorem Restores.list (h : Restores decode? encode) :
    Restores (listOf? decode?) (ofList encode) := by
  intro values
  rw [ofList, canonical_array, listOf?, items?, Option.bind_some, List.map_map, List.mapM_map]
  exact (mapM_eq_some fun value _ => h value).trans (congrArg some (List.map_id values))

theorem Restores.optional (h : Restores decode? encode) (hnull : decode? .null = none) :
    Restores (optional? decode?) fun value => (value.map encode).getD .null := by
  intro value
  cases value with
  | none => rfl
  | some value =>
      have hvalue := h value
      simp only [Option.map_some, Option.getD_some]
      unfold optional?
      split
      · next heq =>
          rw [heq, hnull] at hvalue
          cases hvalue
      · rw [hvalue]
        rfl

end Restores

theorem restores_ofText? : Restores (optional? asText?) ofText?
  | none => rfl
  | some _ => rfl

/-- The fields of an object are found under their names, with their values. -/
theorem valuesOf?_canonical {fields : Fields} {names : List String}
    (hnames : fields.map Prod.fst = names) (hnodup : names.Nodup) :
    (canonical (.object fields)).valuesOf? names =
      some (fields.map fun field => field.2.canonical) := by
  have hkeys : (fields.map canonicalField).map Prod.fst = names := by
    rw [List.map_map]
    exact hnames
  rw [← hkeys] at hnodup
  have hperm := (Fields.perm_sorted_of_nodup hnodup).map Prod.fst
  rw [hkeys] at hperm
  rw [canonical_object, valuesOf?, if_pos hperm, ← hnames, List.mapM_map]
  refine mapM_eq_some fun field hfield => ?_
  have hmem : canonicalField field ∈ fields.map canonicalField := List.mem_map_of_mem hfield
  exact (Fields.lookup_sorted_of_nodup hnodup field.1).trans (Fields.lookup_of_nodup hnodup hmem)

end Json

open Json

/-! ## Records of the document -/

/-- A route of the document. -/
def Route.ofDocument? (value : Json) : Option Route := do
  let [hostname, ip, device] ← value.valuesOf? ["hostname", "ip", "device"] | none
  return ⟨← hostname.asText?, ← ip.asText?, ← device.asText?⟩

/-- A column of the document. -/
def Column.ofDocument? (value : Json) : Option Column := do
  let [key, label] ← value.valuesOf? ["key", "label"] | none
  return ⟨← key.asText?, ← label.asText?⟩

/-- A cell of the document. -/
def Cell.ofDocument? (value : Json) : Option Cell := do
  let [lines, link] ← value.valuesOf? ["lines", "link"] | none
  return ⟨← lines.listOf? asText?, ← link.asBool?⟩

/-- A row of the document. -/
def Row.ofDocument? (value : Json) : Option Row := do
  let [cells] ← value.valuesOf? ["cells"] | none
  cells.listOf? Cell.ofDocument?

/-- The rows of a table of the document, which must be the given table with all its columns. -/
def Table.rowsOf? (id : TableId) (value : Json) : Option (List Row) := do
  let [name, columns, rows] ← value.valuesOf? ["id", "columns", "rows"] | none
  if (← name.asText?) = id.name ∧ (← columns.listOf? Column.ofDocument?) = id.columns then
    rows.listOf? Row.ofDocument?
  else
    none

/-- An entry of the versions panel of the document. -/
def PanelEntry.ofDocument? (value : Json) : Option PanelEntry := do
  let [label, content] ← value.valuesOf? ["label", "value"] | none
  return ⟨← label.asText?, ← content.asText?⟩

/-- The versions panel of the document. -/
def Panel.ofDocument? (value : Json) : Option Panel := do
  let [entries, raw, note] ← value.valuesOf? ["entries", "raw", "note"] | none
  return ⟨← entries.listOf? PanelEntry.ofDocument?, ← raw.optional? asText?,
    ← note.optional? asText?⟩

/-- The capabilities of the document. -/
def CapabilitiesRegion.ofDocument? (value : Json) : Option CapabilitiesRegion := do
  let [reachable, traceroute, showAdminLink, error] ←
    value.valuesOf? ["reachable", "traceroute", "show_admin_link", "error"] | none
  return ⟨← reachable.asBool?, ← traceroute.asBool?, ← showAdminLink.asBool?,
    ← error.optional? asText?⟩

/-- The overview of the document. -/
def Overview.ofDocument? (value : Json) : Option Overview := do
  let [hostname, ip, uptime, defaultRoute, adminUrl, olsr2On, olsr2Info, error] ←
    value.valuesOf? ["hostname", "ip", "uptime", "default_route", "admin_url", "olsr2_on",
      "olsr2_info", "error"] | none
  return {
    hostname := ← hostname.asText?
    ip := ← ip.asText?
    uptime := ← uptime.asText?
    defaultRoute := ← defaultRoute.optional? Route.ofDocument?
    adminUrl := ← adminUrl.optional? asText?
    olsr2On := ← olsr2On.asBool?
    olsr2Info := ← olsr2Info.asText?
    error := ← error.optional? asText? }

/-- The connections of the document. -/
def ConnectionsRegion.ofDocument? (value : Json) : Option ConnectionsRegion := do
  let [status, table] ← value.valuesOf? ["status", "table"] | none
  return ⟨← status.asText?, ← Table.rowsOf? .connections table⟩

/-- The versions of the document. -/
def VersionsRegion.ofDocument? (value : Json) : Option VersionsRegion := do
  let [status, panel] ← value.valuesOf? ["status", "panel"] | none
  return ⟨← status.asText?, ← panel.optional? Panel.ofDocument?⟩

/-- The trace of the document. Whether an operator has run it is not in the document. -/
def TraceRegion.ofDocument? (value : Json) : Option TraceRegion := do
  let [target, summary, raw, table] ← value.valuesOf? ["target", "summary", "raw", "table"] | none
  return {
    target := ← target.asText?
    summary := ← summary.asText?
    raw := ← raw.optional? asText?
    rows := ← Table.rowsOf? .traceroute table
    userRun := false }

namespace Dashboard

/-- The dashboard that a document shows. Nothing is remembered beside it. -/
def ofDocument? (value : Json) : Option Dashboard := do
  let [capabilities, overview, frequencyWarning, devices, links, neighbors, connections, versions,
      traceroute] ←
    value.valuesOf? ["capabilities", "overview", "frequency_warning", "devices", "links",
      "neighbors", "connections", "versions", "traceroute"] | none
  return {
    capabilities := ← CapabilitiesRegion.ofDocument? capabilities
    overview := ← Overview.ofDocument? overview
    frequencyWarning := ← frequencyWarning.asBool?
    devices := ← Table.rowsOf? .devices devices
    links := ← Table.rowsOf? .links links
    neighbors := ← Table.rowsOf? .neighbors neighbors
    connections := ← ConnectionsRegion.ofDocument? connections
    versions := ← VersionsRegion.ofDocument? versions
    traceroute := ← TraceRegion.ofDocument? traceroute
    directory := none
    sortKeys := fun _ => none }

/-- What is shown of a dashboard, without that which is only remembered. -/
def shown (dashboard : Dashboard) : Dashboard :=
  { dashboard with traceroute.userRun := false, directory := none, sortKeys := fun _ => none }

end Dashboard

/-! ## What comes back -/

theorem restores_route : Restores Route.ofDocument? Route.toJson := by
  intro route
  rw [Route.ofDocument?, Route.toJson, valuesOf?_canonical (by rfl) (by decide)]
  rfl

theorem restores_column : Restores Column.ofDocument? Column.toJson := by
  intro column
  rw [Column.ofDocument?, Column.toJson, valuesOf?_canonical (by rfl) (by decide)]
  rfl

theorem restores_cell : Restores Cell.ofDocument? Cell.toJson := by
  intro cell
  have hlines := restores_text.list cell.lines
  rw [Cell.ofDocument?, Cell.toJson, valuesOf?_canonical (by rfl) (by decide)]
  simp [hlines, restores_bool cell.link]

theorem restores_row : Restores Row.ofDocument? Row.toJson := by
  intro row
  rw [Row.ofDocument?, Row.toJson, valuesOf?_canonical (by rfl) (by decide)]
  exact restores_cell.list row

theorem Table.rowsOf?_canonical (table : Table) :
    rowsOf? table.id table.toJson.canonical = some table.rows := by
  have hcolumns := restores_column.list table.id.columns
  have hrows := restores_row.list table.rows
  rw [rowsOf?, toJson, valuesOf?_canonical (by rfl) (by decide)]
  simp [restores_text table.id.name, hcolumns, hrows]

theorem restores_panelEntry : Restores PanelEntry.ofDocument? PanelEntry.toJson := by
  intro entry
  rw [PanelEntry.ofDocument?, PanelEntry.toJson, valuesOf?_canonical (by rfl) (by decide)]
  rfl

theorem restores_panel : Restores Panel.ofDocument? Panel.toJson := by
  intro panel
  have hentries := restores_panelEntry.list panel.entries
  rw [Panel.ofDocument?, Panel.toJson, valuesOf?_canonical (by rfl) (by decide)]
  simp [hentries, restores_ofText? panel.raw, restores_ofText? panel.note]

theorem restores_capabilities :
    Restores CapabilitiesRegion.ofDocument? CapabilitiesRegion.toJson := by
  intro region
  rw [CapabilitiesRegion.ofDocument?, CapabilitiesRegion.toJson,
    valuesOf?_canonical (by rfl) (by decide)]
  simp [restores_bool _, restores_ofText? region.error]

theorem restores_overview : Restores Overview.ofDocument? Overview.toJson := by
  intro overview
  have hdefault := restores_route.optional rfl overview.defaultRoute
  rw [Overview.ofDocument?, Overview.toJson, valuesOf?_canonical (by rfl) (by decide)]
  simp [restores_text _, restores_bool _, restores_ofText? _, hdefault]

namespace Dashboard

theorem rowsOf?_table (dashboard : Dashboard) (id : TableId) :
    Table.rowsOf? id (dashboard.table id).toJson.canonical = some (dashboard.rows id) :=
  (dashboard.table id).rowsOf?_canonical

theorem ofDocument?_connections (dashboard : Dashboard) :
    ConnectionsRegion.ofDocument? dashboard.connectionsJson.canonical =
      some dashboard.connections := by
  rw [ConnectionsRegion.ofDocument?, connectionsJson, valuesOf?_canonical (by rfl) (by decide)]
  simp [restores_text _, rowsOf?_table dashboard .connections, rows]

theorem ofDocument?_versions (dashboard : Dashboard) :
    VersionsRegion.ofDocument? dashboard.versionsJson.canonical = some dashboard.versions := by
  have hpanel := restores_panel.optional rfl dashboard.versions.panel
  rw [VersionsRegion.ofDocument?, versionsJson, valuesOf?_canonical (by rfl) (by decide)]
  simp [restores_text _, hpanel]

theorem ofDocument?_traceroute (dashboard : Dashboard) :
    TraceRegion.ofDocument? dashboard.tracerouteJson.canonical =
      some { dashboard.traceroute with userRun := false } := by
  rw [TraceRegion.ofDocument?, tracerouteJson, valuesOf?_canonical (by rfl) (by decide)]
  simp [restores_text _, restores_ofText? _, rowsOf?_table dashboard .traceroute, rows]

/-- The document gives back all that is shown. -/
theorem ofDocument?_document (dashboard : Dashboard) :
    ofDocument? dashboard.document.canonical = some dashboard.shown := by
  have hcapabilities := restores_capabilities dashboard.capabilities
  have hoverview := restores_overview dashboard.overview
  have hdevices := rowsOf?_table dashboard .devices
  have hlinks := rowsOf?_table dashboard .links
  have hneighbors := rowsOf?_table dashboard .neighbors
  rw [ofDocument?, document, valuesOf?_canonical (by rfl) (by decide)]
  simp [documentFields, hcapabilities, hoverview, restores_bool dashboard.frequencyWarning,
    hdevices, hlinks, hneighbors, ofDocument?_connections, ofDocument?_versions,
    ofDocument?_traceroute, rows, shown]

end Dashboard

/-! ## The text of the document -/

namespace Json

/-- A value of texts and truth values, nested at most so many levels deep. -/
def IsPlain : Nat → Json → Prop
  | _, .number _ | 0, .array _ | 0, .object _ => False
  | depth + 1, .array items => ∀ item ∈ items, IsPlain depth item
  | depth + 1, .object fields => ∀ field ∈ fields, IsPlain depth field.2
  | _, _ => True

@[simp] theorem isPlain_null (depth : Nat) : IsPlain depth .null := by cases depth <;> trivial

@[simp] theorem isPlain_bool (depth : Nat) (b : Bool) : IsPlain depth (.bool b) := by
  cases depth <;> trivial

@[simp] theorem isPlain_text (depth : Nat) (s : String) : IsPlain depth (.text s) := by
  cases depth <;> trivial

@[simp] theorem isPlain_ofText? (depth : Nat) (s : Option String) :
    IsPlain depth (ofText? s) := by
  cases s <;> simp [ofText?]

@[simp] theorem isPlain_object {depth : Nat} {fields : Fields} :
    IsPlain (depth + 1) (.object fields) ↔ ∀ field ∈ fields, IsPlain depth field.2 := Iff.rfl

theorem isPlain_ofList {α : Type} {depth : Nat} {encode : α → Json} (values : List α)
    (h : ∀ value, IsPlain depth (encode value)) :
    IsPlain (depth + 1) (ofList encode values) := by
  intro item hitem
  obtain ⟨value, -, rfl⟩ := List.mem_map.mp hitem
  exact h value

theorem isPlain_getD {α : Type} {depth : Nat} {encode : α → Json} (value : Option α)
    (h : ∀ value, IsPlain depth (encode value)) :
    IsPlain depth ((value.map encode).getD .null) := by
  cases value with
  | none => exact isPlain_null depth
  | some value => exact h value

theorem IsPlain.isNested {depth : Nat} {value : Json} (h : IsPlain depth value) :
    IsNested depth value := by
  induction depth generalizing value with
  | zero => cases value <;> trivial
  | succ depth ih =>
      cases value with
      | array items => exact fun item hitem => ih (h item hitem)
      | object fields => exact fun field hfield => ih (h field hfield)
      | _ => trivial

theorem IsPlain.hasWholeNumbers {depth : Nat} {value : Json} (h : IsPlain depth value) :
    value.HasWholeNumbers := by
  intro x hx
  generalize hnumber : Json.number (.float x) = part at hx
  induction hx generalizing depth with
  | self =>
      subst hnumber
      cases depth <;> cases h
  | item hitem _ ih =>
      cases depth with
      | zero => cases h
      | succ depth => exact ih (h _ hitem)
  | field hfield _ ih =>
      cases depth with
      | zero => cases h
      | succ depth => exact ih (h _ hfield)

end Json

theorem isPlain_column (depth : Nat) (column : Column) : IsPlain (depth + 1) column.toJson := by
  simp [Column.toJson]

theorem isPlain_cell (depth : Nat) (cell : Cell) : IsPlain (depth + 2) cell.toJson := by
  have hlines := isPlain_ofList cell.lines (isPlain_text depth)
  simp [Cell.toJson, hlines]

theorem isPlain_row (depth : Nat) (row : Row) : IsPlain (depth + 4) row.toJson := by
  have hcells := isPlain_ofList row (isPlain_cell depth)
  simp [Row.toJson, hcells]

theorem isPlain_table (depth : Nat) (table : Table) : IsPlain (depth + 6) table.toJson := by
  have hcolumns := isPlain_ofList table.id.columns (isPlain_column (depth + 3))
  have hrows := isPlain_ofList table.rows (isPlain_row depth)
  simp [Table.toJson, hcolumns, hrows]

theorem isPlain_panel (depth : Nat) (panel : Panel) : IsPlain (depth + 3) panel.toJson := by
  have hentry (entry : PanelEntry) : IsPlain (depth + 1) entry.toJson := by
    simp [PanelEntry.toJson]
  have hentries := isPlain_ofList panel.entries hentry
  simp [Panel.toJson, hentries]

theorem isPlain_overview (depth : Nat) (overview : Overview) :
    IsPlain (depth + 2) overview.toJson := by
  have hroute (route : Route) : IsPlain (depth + 1) route.toJson := by
    simp [Route.toJson]
  have hdefault := isPlain_getD overview.defaultRoute hroute
  simp [Overview.toJson, hdefault]

/-- The document has no numbers and is nested eight levels deep. -/
theorem Dashboard.isPlain_document (dashboard : Dashboard) : IsPlain 8 dashboard.document := by
  have hoverview := isPlain_overview 5 dashboard.overview
  have htable (id : TableId) := isPlain_table 1 (dashboard.table id)
  have hcapabilities : IsPlain 7 dashboard.capabilities.toJson := by
    simp [CapabilitiesRegion.toJson]
  have hconnections : IsPlain 7 dashboard.connectionsJson := by
    simp [connectionsJson, isPlain_table 0]
  have hversions : IsPlain 7 dashboard.versionsJson := by
    have hpanel := isPlain_getD dashboard.versions.panel (isPlain_panel 3)
    simp [versionsJson, hpanel]
  have htrace : IsPlain 7 dashboard.tracerouteJson := by
    simp [tracerouteJson, isPlain_table 0]
  simp [document, documentFields, hoverview, htable, hcapabilities, hconnections, hversions, htrace]

/-- **Reading the document.** Whoever reads the text of the document finds all that the dashboard
shows, under the expected names and with the same texts, and nothing else. -/
theorem Dashboard.read?_document (dashboard : Dashboard) :
    (read? dashboard.document.compact).bind ofDocument? = some dashboard.shown := by
  have hread : read? dashboard.document.compact = some dashboard.document.canonical :=
    read?_compact (dashboard.isPlain_document.isNested.mono (by decide))
      dashboard.isPlain_document.hasWholeNumbers
  rw [hread, Option.bind_some, ofDocument?_document]

/-- An object that lacks the fields is no document. -/
example : (Dashboard.ofDocument? (.object [])).isNone := rfl

end MeshConsole
