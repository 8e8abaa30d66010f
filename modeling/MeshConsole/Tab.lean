import MeshConsole.Dashboard.Basic

/-!
# Tabs

The dashboard is shown one tab at a time. Three tabs are always there; the others appear with what
they show. A tab that is not there cannot be active: the status tab takes its place.
-/

namespace MeshConsole

/-- The tabs of the page. -/
inductive Tab where
  | status
  | olsr
  | neighbors
  | olsr2
  | connections
  | versions
  | traceroute
  | admin
deriving Repr, DecidableEq

namespace Tab

/-- All tabs, from left to right. -/
def all : List Tab :=
  [.status, .olsr, .neighbors, .olsr2, .connections, .versions, .traceroute, .admin]

/-- The name of a tab in addresses. -/
def id : Tab → String
  | .status => "status"
  | .olsr => "olsr"
  | .neighbors => "neighbors"
  | .olsr2 => "olsr2"
  | .connections => "connections"
  | .versions => "versions"
  | .traceroute => "traceroute"
  | .admin => "admin"

/-- The label of a tab. -/
def label : Tab → String
  | .status => "Status"
  | .olsr => "OLSR Links"
  | .neighbors => "Neighbors"
  | .olsr2 => "OLSRv2"
  | .connections => "Connections"
  | .versions => "Versions"
  | .traceroute => "Traceroute"
  | .admin => "Admin"

/-- The tab of a name. -/
def ofId? (id : String) : Option Tab := all.find? fun tab => tab.id == id

/-- The tab that shows a table. -/
def ofTable : TableId → Tab
  | .devices => .status
  | .links => .olsr
  | .neighbors => .neighbors
  | .connections => .connections
  | .traceroute => .traceroute

/-- Whether a tab is there. -/
def isVisible (dashboard : Dashboard) : Tab → Bool
  | .status | .connections | .versions => true
  | .olsr => !dashboard.links.isEmpty
  | .neighbors => !dashboard.neighbors.isEmpty
  | .olsr2 => dashboard.overview.olsr2On
  | .traceroute => dashboard.capabilities.traceroute || !dashboard.traceroute.rows.isEmpty
  | .admin => dashboard.capabilities.showAdminLink && dashboard.overview.adminUrl.isSome

/-- The tabs that are there, from left to right. -/
def bar (dashboard : Dashboard) : List Tab := all.filter (isVisible dashboard)

/-- The tab that is shown when the given one is asked for. -/
def active (dashboard : Dashboard) (requested : Option String) : Tab :=
  ((requested.bind ofId?).filter (isVisible dashboard)).getD .status

end Tab

end MeshConsole
