import MeshConsole.Page.Pane

/-!
# The page

The page of the dashboard: the name of the node, what keeps it from being shown, the tabs, and the
pane of the active tab.
-/

namespace MeshConsole

open Markup

/-- A tab in the bar. -/
def Tab.markup (active : Tab) (tab : Tab) : Markup :=
  line 4
    [.markup (if tab = active then "<li class=\"active\">" else "<li>"),
     .markup "<a href=\"/?tab=", .markup tab.id, .markup "\">", .markup tab.label,
     .markup "</a></li>"]

namespace Dashboard

/-- The head of the page. -/
def pageHead (dashboard : Dashboard) : Markup :=
  line 0 [.markup "<!DOCTYPE html>"] ++
  line 0 [.markup "<html lang=\"en\">"] ++
  line 0 [.markup "<head>"] ++
  line 2 [.markup "<meta charset=\"utf-8\">"] ++
  line 2 [.markup "<title>", .text dashboard.overview.hostname, .markup "</title>"] ++
  line 0 [.markup "</head>"]

/-- The line above everything: which node this is, the way to its administration, and the button
that loads everything anew. -/
def navigation (dashboard : Dashboard) : Markup :=
  line 2 [.markup "<nav>"] ++
  line 4
    [.markup "<span id=\"nav-host\">", .text dashboard.overview.ip, .markup " - ",
     .text dashboard.overview.hostname, .markup "</span>"] ++
  line 4 (dashboard.loginLink "<a id=\"nav-login-link\" href=\"") ++
  line 4
    [.markup "<form method=\"post\" action=\"/refresh\" style=\"display:inline\">",
     .markup "<button type=\"submit\">Refresh</button></form>"] ++
  line 2 [.markup "</nav>"]

/-- A diagnostic in a box of its own; nothing for an empty one. -/
def alert (before : String) (diagnostic : Option String) : Markup :=
  let diagnostic := diagnostic.getD ""
  shownIf 2 (!diagnostic.isEmpty) (line 2 (around before diagnostic "</pre></div>"))

/-- The boxes of the failures that concern the whole node. -/
def alerts (dashboard : Dashboard) : Markup :=
  alert "<div class=\"alert alert-danger\" id=\"node-unreachable\">Node not reachable: <pre>"
    dashboard.capabilities.error ++
  alert "<div class=\"alert alert-danger\" id=\"status-error\"><pre>" dashboard.overview.error

/-- The tabs. -/
def tabBar (dashboard : Dashboard) (active : Tab) : Markup :=
  line 2 [.markup "<ul id=\"mainTabs\" class=\"nav nav-tabs\">"] ++
  forEach 4 (Tab.bar dashboard) (Tab.markup active) ++
  line 2 [.markup "</ul>"]

/-- The page with the pane of the requested tab. -/
def page (dashboard : Dashboard) (requested : Option String) : Markup :=
  let active := Tab.active dashboard requested
  dashboard.pageHead ++
  line 0 [.markup "<body>"] ++
  dashboard.navigation ++
  line 0 [] ++
  dashboard.alerts ++
  line 0 [] ++
  dashboard.tabBar active ++
  line 0 [] ++
  shownIf 2 true (dashboard.pane active) ++
  line 0 [.markup "</body>"] ++
  line 0 [.markup "</html>"]

end Dashboard

end MeshConsole
