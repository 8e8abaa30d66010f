import MeshConsole.Payload.Answers
import MeshConsole.Payload.Status
import MeshConsole.Table.Sort
import MeshConsole.Versions

/-!
# The dashboard

The dashboard holds all that is shown of a node. It has a region for each of the node's answers, and
each region has room for its own diagnostic, so that one failed fetch leaves the other regions as
they are. Beside the regions it remembers two things that are not shown: the node directory, which
the names behind the ports are taken from, and the key by which the operator last sorted each table.

A table stands here as its rows, since its columns follow from which table it is.
-/

namespace MeshConsole

/-- What is known about reaching the node, and what it can do. -/
structure CapabilitiesRegion where
  reachable : Bool
  traceroute : Bool
  showAdminLink : Bool
  error : Option String
deriving Repr, DecidableEq

/-- Who the node is. -/
structure Overview where
  hostname : String
  ip : String
  uptime : String
  defaultRoute : Option Route
  adminUrl : Option String
  olsr2On : Bool
  olsr2Info : String
  error : Option String
deriving Repr, DecidableEq

/-- The hosts behind the ports, under a line that says whether they are being loaded or what went
wrong. -/
structure ConnectionsRegion where
  status : String
  rows : List Row
deriving Repr, DecidableEq

/-- The versions, under a line as above. -/
structure VersionsRegion where
  status : String
  panel : Option Panel
deriving Repr, DecidableEq

/-- A trace. The output of the command is shown only where it gave no hop. Once an operator has run
a trace, the trace towards the uplink no longer takes its place. -/
structure TraceRegion where
  target : String
  summary : String
  raw : Option String
  rows : List Row
  userRun : Bool
deriving Repr, DecidableEq

/-- All that is shown of a node, and what is remembered beside it. -/
structure Dashboard where
  capabilities : CapabilitiesRegion
  overview : Overview
  frequencyWarning : Bool
  devices : List Row
  links : List Row
  neighbors : List Row
  connections : ConnectionsRegion
  versions : VersionsRegion
  traceroute : TraceRegion
  directory : Option Directory
  sortKeys : TableId → Option String

/-- The node is not reachable until it has answered. -/
def CapabilitiesRegion.initial : CapabilitiesRegion := ⟨false, false, false, none⟩

/-- The host name of a node that does not tell it. -/
def Overview.unknownHost : String := "Unknown"

/-- The overview of a node that has told nothing. -/
def Overview.initial : Overview := ⟨unknownHost, "", "", none, none, false, "", none⟩

/-- The trace before there is any. -/
def TraceRegion.initial : TraceRegion := ⟨"", "", none, [], false⟩

/-- The dashboard before anything was loaded. -/
def Dashboard.initial : Dashboard where
  capabilities := .initial
  overview := .initial
  frequencyWarning := false
  devices := []
  links := []
  neighbors := []
  connections := ⟨"", []⟩
  versions := ⟨"", none⟩
  traceroute := .initial
  directory := none
  sortKeys _ := none

namespace Dashboard

/-! ### Tables -/

/-- The rows of a table. -/
def rows (dashboard : Dashboard) : TableId → List Row
  | .devices => dashboard.devices
  | .links => dashboard.links
  | .neighbors => dashboard.neighbors
  | .connections => dashboard.connections.rows
  | .traceroute => dashboard.traceroute.rows

/-- A table as it is shown. -/
def table (dashboard : Dashboard) (id : TableId) : Table := ⟨id, dashboard.rows id⟩

/-- The dashboard with other rows in the place of a table's rows. -/
def withRows (dashboard : Dashboard) (id : TableId) (rows : List Row) : Dashboard :=
  match id with
  | .devices => { dashboard with devices := rows }
  | .links => { dashboard with links := rows }
  | .neighbors => { dashboard with neighbors := rows }
  | .connections => { dashboard with connections.rows := rows }
  | .traceroute => { dashboard with traceroute.rows := rows }

/-- The dashboard with a table shown in the order of a key. -/
def arrange (dashboard : Dashboard) (id : TableId) (key : String) : Dashboard :=
  dashboard.withRows id ((dashboard.table id).sortBy key).rows

/-- Sorts a table for the operator. The key is remembered for later rows. -/
def sort (dashboard : Dashboard) (id : TableId) (key : String) : Dashboard :=
  { dashboard with
    sortKeys := fun other => if other = id then some key else dashboard.sortKeys other }.arrange
      id key

/-- New rows of a table in the order that the operator asked for last. -/
def resort (dashboard : Dashboard) (id : TableId) : Dashboard :=
  match dashboard.sortKeys id with
  | some key => dashboard.arrange id key
  | none => dashboard

/-! ### Small laws -/

@[simp] theorem rows_withRows (dashboard : Dashboard) (id : TableId) (rows : List Row) :
    (dashboard.withRows id rows).rows id = rows := by
  cases id <;> rfl

theorem rows_withRows_of_ne {dashboard : Dashboard} {id other : TableId} (h : other ≠ id)
    (rows : List Row) : (dashboard.withRows id rows).rows other = dashboard.rows other := by
  cases id <;> cases other <;> simp_all [Dashboard.rows, withRows]

@[simp] theorem sortKeys_withRows (dashboard : Dashboard) (id : TableId) (rows : List Row) :
    (dashboard.withRows id rows).sortKeys = dashboard.sortKeys := by
  cases id <;> rfl

end Dashboard

end MeshConsole
