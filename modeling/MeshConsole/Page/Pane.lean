import MeshConsole.Page.Table
import MeshConsole.Tab

/-!
# Panes

What is shown below the tabs: one pane for the active tab.
-/

namespace MeshConsole

open Markup

/-- The default route, as far as it is known. -/
def Route.markup (route : Route) : Markup :=
  line 8 [] ++
  line 8 [] ++
  line 8 (if route.hostname.isEmpty then [] else webLink route.hostname) ++
  line 8 (if route.ip.isEmpty then [] else .markup "(" :: webLink route.ip ++ [.markup ")"]) ++
  line 8 (around "via " route.device "") ++
  line 8 []

/-- A table in a pane that is about nothing else. -/
def Dashboard.tableMarkup (dashboard : Dashboard) (id : TableId) (empty : String) : Markup :=
  (dashboard.table id).markup empty true

/-- The link to the node's own administration. -/
def Dashboard.loginLink (dashboard : Dashboard) (before : String) : Markup :=
  around before (dashboard.overview.adminUrl.getD "") "\">Login</a>"

/-- A line of loading or failing, inside a division of its own. -/
def statusMarkup (id status : String) : Markup :=
  line 4 [.markup "<div id=\"", .markup id, .markup "\">"] ++
  line 0 (around "<pre class=\"region-status\">" status "</pre>") ++
  line 0 [.markup "</div>"]

/-- A button that loads a part of the dashboard anew. -/
def refreshForm (action id : String) : Markup :=
  line 4
    [.markup "<form method=\"post\" action=\"/refresh/", .markup action,
     .markup "\"><button type=\"submit\" id=\"", .markup id,
     .markup "\">Refresh</button></form>"]

namespace Dashboard

/-- The pane of the status. -/
def statusPane (dashboard : Dashboard) : Markup :=
  line 4 [.markup "<dl class=\"dl-horizontal\">"] ++
  line 6
    [.markup "<dt>Hostname</dt><dd id=\"hostname\">", .text dashboard.overview.hostname,
     .markup "</dd>"] ++
  line 6 [.markup "<dt>IP</dt><dd id=\"ip\">", .text dashboard.overview.ip, .markup "</dd>"] ++
  line 6
    [.markup "<dt>Uptime</dt><dd id=\"uptime\">", .text dashboard.overview.uptime,
     .markup "</dd>"] ++
  line 6 [.markup "<dt>Default route</dt>"] ++
  line 6 [.markup "<dd id=\"default-route\">"] ++
  (match dashboard.overview.defaultRoute with
   | some route => route.markup
   | none => line 8 [.markup "n/a"]) ++
  line 6 [.markup "</dd>"] ++
  line 4 [.markup "</dl>"] ++
  line 4 (around "<div id=\"traceroute-summary\">" dashboard.traceroute.summary "</div>") ++
  shownIf 4 dashboard.frequencyWarning
    (line 4
      [.markup "<div class=\"alert alert-warning\" id=\"frequency-warning\">",
       .markup "Warning: frequency overlap detected!</div>"]) ++
  (dashboard.table .devices).markup "No devices found" false

/-- The pane of the second routing protocol. -/
def olsr2Pane (dashboard : Dashboard) : Markup :=
  line 4 [.markup "<pre id=\"olsr2info\">", .text dashboard.overview.olsr2Info, .markup "</pre>"]

/-- The pane of the connections. -/
def connectionsPane (dashboard : Dashboard) : Markup :=
  refreshForm "connections" "refresh-connections" ++
  statusMarkup "connections-status" dashboard.connections.status ++
  dashboard.tableMarkup .connections ""

end Dashboard

/-- The versions panel on the page. -/
def Panel.markup (panel : Panel) : Markup :=
  line 6 [] ++
  line 6 [] ++
  line 6 (around "" (panel.note.getD "") "") ++
  line 6 [.markup "<dl class=\"dl-horizontal\">"] ++
  line 8
    (panel.entries.flatMap fun entry =>
      [.markup "<dt>", .text entry.label, .markup "</dt><dd>", .text entry.value,
       .markup "</dd>"]) ++
  line 6 [.markup "</dl>"] ++
  line 6 (around "<pre>" (panel.raw.getD "") "</pre>") ++
  line 6 []

namespace Dashboard

/-- The pane of the versions. -/
def versionsPane (dashboard : Dashboard) : Markup :=
  refreshForm "versions" "refresh-versions" ++
  statusMarkup "versions-status" dashboard.versions.status ++
  line 4 [.markup "<div id=\"versions-wrap\">"] ++
  (match dashboard.versions.panel with
   | some panel => panel.markup
   | none => line 6 []) ++
  line 4 [.markup "</div>"]

/-- The pane of the trace. -/
def traceroutePane (dashboard : Dashboard) : Markup :=
  line 4 [.markup "<form method=\"get\" action=\"/traceroute\">"] ++
  line 6
    [.markup "<input type=\"text\" id=\"tr-host\" name=\"target\" value=\"",
     .text dashboard.traceroute.target, .markup "\">"] ++
  line 6 [.markup "<button type=\"submit\" id=\"tr-run\">Run</button>"] ++
  line 4 [.markup "</form>"] ++
  line 4
    [.markup "<div id=\"traceroute-summary\">", .text dashboard.traceroute.summary,
     .markup "</div>"] ++
  line 4 (around "<pre id=\"p-traceroute\">" (dashboard.traceroute.raw.getD "") "</pre>") ++
  shownIf 4 (!dashboard.traceroute.rows.isEmpty) (dashboard.tableMarkup .traceroute "")

/-- The pane of the administration. -/
def adminPane (dashboard : Dashboard) : Markup :=
  line 4 (dashboard.loginLink "<a id=\"adminLink\" target=\"_blank\" href=\"")

/-- The content of a tab's pane. -/
def paneContent (dashboard : Dashboard) : Tab → Markup
  | .status => dashboard.statusPane
  | .olsr => dashboard.tableMarkup .links "No links found"
  | .neighbors => dashboard.tableMarkup .neighbors "No neighbors found"
  | .olsr2 => dashboard.olsr2Pane
  | .connections => dashboard.connectionsPane
  | .versions => dashboard.versionsPane
  | .traceroute => dashboard.traceroutePane
  | .admin => dashboard.adminPane

/-- The pane of a tab. -/
def pane (dashboard : Dashboard) (tab : Tab) : Markup :=
  line 2 [.markup "<div class=\"tab-pane active\" id=\"tab-", .markup tab.id, .markup "\">"] ++
  dashboard.paneContent tab ++
  line 2 [.markup "</div>"]

end Dashboard

end MeshConsole
