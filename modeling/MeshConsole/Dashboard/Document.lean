import MeshConsole.Dashboard.Basic
import MeshConsole.Json.Printer

/-!
# The dashboard as a document

Programs read the dashboard as one JSON object with a field for each region. What is remembered
beside the regions is not in it; the state of the dashboard has both.

    Dashboard ──document──▶ object of the regions
              ──state─────▶ the same and what is remembered
-/

namespace MeshConsole

namespace Json

/-- A text, or null. -/
def ofText? : Option String → Json
  | some value => .text value
  | none => .null

/-- A natural number, which is expected to fit 64 bits; one that does not is left out. -/
def ofNat (n : Nat) : Json :=
  match Whole.ofNat? n with
  | some n => .number (.whole n)
  | none => .null

/-- Values in an array. -/
def ofList {α : Type} (encode : α → Json) (values : List α) : Json := .array (values.map encode)

end Json

open Json (ofText? ofList)

/-- A route as JSON. -/
def Route.toJson (route : Route) : Json :=
  .object [("hostname", .text route.hostname), ("ip", .text route.ip),
    ("device", .text route.device)]

/-- A column as JSON. -/
def Column.toJson (column : Column) : Json :=
  .object [("key", .text column.key), ("label", .text column.label)]

/-- A cell as JSON. -/
def Cell.toJson (cell : Cell) : Json :=
  .object [("lines", ofList .text cell.lines), ("link", .bool cell.link)]

/-- A row as JSON. -/
def Row.toJson (row : Row) : Json := .object [("cells", ofList Cell.toJson row)]

/-- A table as JSON. -/
def Table.toJson (table : Table) : Json :=
  .object [("id", .text table.id.name), ("columns", ofList Column.toJson table.id.columns),
    ("rows", ofList Row.toJson table.rows)]

/-- An entry of the versions panel as JSON. -/
def PanelEntry.toJson (entry : PanelEntry) : Json :=
  .object [("label", .text entry.label), ("value", .text entry.value)]

/-- The versions panel as JSON. -/
def Panel.toJson (panel : Panel) : Json :=
  .object [("entries", ofList PanelEntry.toJson panel.entries), ("raw", ofText? panel.raw),
    ("note", ofText? panel.note)]

/-- The capabilities as JSON. -/
def CapabilitiesRegion.toJson (region : CapabilitiesRegion) : Json :=
  .object [("reachable", .bool region.reachable), ("traceroute", .bool region.traceroute),
    ("show_admin_link", .bool region.showAdminLink), ("error", ofText? region.error)]

/-- The overview as JSON. -/
def Overview.toJson (overview : Overview) : Json :=
  .object [("hostname", .text overview.hostname), ("ip", .text overview.ip),
    ("uptime", .text overview.uptime),
    ("default_route", (overview.defaultRoute.map Route.toJson).getD .null),
    ("admin_url", ofText? overview.adminUrl), ("olsr2_on", .bool overview.olsr2On),
    ("olsr2_info", .text overview.olsr2Info), ("error", ofText? overview.error)]

namespace Dashboard

/-- The connections as JSON. -/
def connectionsJson (dashboard : Dashboard) : Json :=
  .object [("status", .text dashboard.connections.status),
    ("table", (dashboard.table .connections).toJson)]

/-- The versions as JSON. -/
def versionsJson (dashboard : Dashboard) : Json :=
  .object [("status", .text dashboard.versions.status),
    ("panel", (dashboard.versions.panel.map Panel.toJson).getD .null)]

/-- The trace as JSON. -/
def tracerouteJson (dashboard : Dashboard) : Json :=
  .object [("target", .text dashboard.traceroute.target),
    ("summary", .text dashboard.traceroute.summary), ("raw", ofText? dashboard.traceroute.raw),
    ("table", (dashboard.table .traceroute).toJson)]

/-- The fields of the document: what is shown of the node. -/
def documentFields (dashboard : Dashboard) : Json.Fields :=
  [("capabilities", dashboard.capabilities.toJson), ("overview", dashboard.overview.toJson),
   ("frequency_warning", .bool dashboard.frequencyWarning),
   ("devices", (dashboard.table .devices).toJson), ("links", (dashboard.table .links).toJson),
   ("neighbors", (dashboard.table .neighbors).toJson),
   ("connections", dashboard.connectionsJson), ("versions", dashboard.versionsJson),
   ("traceroute", dashboard.tracerouteJson)]

/-- What is shown of the node, as JSON. -/
def document (dashboard : Dashboard) : Json := .object dashboard.documentFields

/-- The keys by which tables were sorted, under the names of the tables. -/
def sortKeysJson (dashboard : Dashboard) : Json :=
  .object <| TableId.all.filterMap fun id =>
    (dashboard.sortKeys id).map fun key => (id.name, .text key)

/-- The fields of the state: what is shown and what is remembered. -/
def stateFields (dashboard : Dashboard) : Json.Fields :=
  dashboard.documentFields ++
    [("sort_keys", dashboard.sortKeysJson),
     ("node_directory",
       (dashboard.directory.map fun directory => Json.ofNat directory.names.length).getD .null),
     ("user_run", .bool dashboard.traceroute.userRun)]

/-- The fields of the state that are not as they were before. -/
def changes (before after : Dashboard) : Json.Fields :=
  after.stateFields.filter fun field => before.stateFields.lookup field.1 != some field.2

end Dashboard

end MeshConsole
