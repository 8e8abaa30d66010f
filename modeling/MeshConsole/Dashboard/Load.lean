import MeshConsole.Dashboard.Branch
import MeshConsole.Dashboard.Update

/-!
# Loading the dashboard

The branches that fill the dashboard, one for each part of it, and the full load. A full load asks
for the capabilities first and then runs four branches at once. These meet in one place only: the
connections are shown with the names of the node directory that is stored by then.

    capabilities ──▶ status
                     directory
                     connections
                     versions
-/

namespace MeshConsole

/-- A part of the dashboard that can be loaded by itself. -/
inductive Part where
  | capabilities
  | status
  | directory
  | connections
  | versions
deriving Repr, DecidableEq

namespace Branch

/-- Asks what the node can do. A failure is shown, and keeps nothing else from being loaded. -/
def loadCapabilities : Branch :=
  .ask .capabilities fun exchange =>
    .write (Dashboard.showCapabilities (exchange.json (Option Capabilities))) .done

/-- Asks for the status. If the second routing protocol is on, its information is fetched too before
anything is shown. -/
def loadStatus (thresholds : Thresholds) : Branch :=
  .ask .status fun exchange =>
    match exchange.json (Option Status) with
    | .error failure => .write (Dashboard.failStatus failure) .done
    | .ok status =>
      let status := status.getD .absent
      if status.olsr2On then
        .ask .olsr2 fun exchange =>
          .write (Dashboard.showStatus thresholds status (Outcome.shown exchange.text)) .done
      else .write (Dashboard.showStatus thresholds status "") .done

/-- Asks for the node directory. If it does not arrive, an earlier one stays in use. -/
def loadDirectory : Branch :=
  .ask .nodedb fun exchange =>
    match exchange.json Directory with
    | .ok directory => .write (Dashboard.keepDirectory directory) .done
    | .error _ => .done

/-- Asks for the connections. -/
def loadConnections : Branch :=
  .write Dashboard.awaitConnections <|
    .ask .connections fun exchange =>
      .write (Dashboard.showConnections (exchange.json (Option Connections))) .done

/-- Asks for the versions. -/
def loadVersions : Branch :=
  .write Dashboard.awaitVersions <|
    .ask .versions fun exchange => .write (Dashboard.showVersions (exchange.json Json)) .done

/-- Runs a trace to a target, without the blanks around it. Without a target nothing is fetched. -/
def traceTo (target : String) : Branch :=
  let target := Text.trim target
  if target.isEmpty then .write Dashboard.requestTarget .done
  else
    .write (Dashboard.awaitTrace target) <|
      .ask (.traceroute target) fun exchange =>
        .write (Dashboard.showTrace target exchange.text) .done

end Branch

namespace Part

/-- The names of the parts. -/
def names : List (String × Part) :=
  [("capabilities", capabilities), ("status", status), ("nodedb", directory),
   ("connections", connections), ("versions", versions)]

/-- The part of a name. -/
def ofName? (name : String) : Option Part := names.lookup name

/-- The branch that loads a part. -/
def branch (thresholds : Thresholds) : Part → Branch
  | capabilities => .loadCapabilities
  | status => .loadStatus thresholds
  | directory => .loadDirectory
  | connections => .loadConnections
  | versions => .loadVersions

end Part

/-- Which of two parts of a full load is complete first. Nothing else depends on the order in which
the node answers. -/
inductive LoadOrder where
  | directoryFirst
  | connectionsFirst
deriving Repr, DecidableEq

/-- The parts that are loaded at once, in the order in which they are complete. -/
def LoadOrder.parts : LoadOrder → List Part
  | directoryFirst => [.status, .directory, .connections, .versions]
  | connectionsFirst => [.status, .connections, .directory, .versions]

namespace Dashboard

/-- Loads everything. Nothing more is asked until the question for the capabilities is settled. -/
def loadAll (deliver : Endpoint → Delivery) (thresholds : Thresholds) (order : LoadOrder)
    (dashboard : Dashboard) : Run :=
  let first := Branch.loadCapabilities.run deliver dashboard
  if first.finished then
    let rest := Branch.runAll deliver (order.parts.map (Part.branch thresholds)) first.dashboard
    { rest with received := first.received ++ rest.received }
  else first

end Dashboard

end MeshConsole
