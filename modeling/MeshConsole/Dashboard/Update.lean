import MeshConsole.Dashboard.Basic
import MeshConsole.Node.Fetch
import MeshConsole.Table.Render

/-!
# Updates of the dashboard

What is written to the dashboard when an answer of the node has arrived, or while it is awaited.
Each update replaces the fields of its own region as a whole and leaves all other fields alone, with
one exception: a status brings the trace towards the uplink along, which is shown as long as no
operator has run a trace.

A table that gets new rows is brought into the order that the operator asked for last. Only the
table of a trace keeps the order of its hops.
-/

namespace MeshConsole

/-- The text of a fetch whose diagnostic is shown in place of a payload. -/
def Outcome.shown : Outcome String → String
  | .ok text => text
  | .error failure => failure.diagnostic

/-- The radios of a node's devices. -/
def Status.radios (status : Status) : Radios :=
  status.airosdata.filterMap fun entry =>
    entry.2.wireless.map fun wireless => (entry.1, Radio.ofWireless wireless)

/-- Whether the radio of a device, found under the address of the device, calls for the warning. -/
def Status.frequencyWarning (thresholds : Thresholds) (status : Status) : Bool :=
  Radio.overlap thresholds (status.devices.filterMap (Device.radio? status.radios))

/-- The overview that a status gives, together with the information of the second routing
protocol. -/
def Overview.ofStatus (status : Status) (olsr2Info : String) : Overview where
  hostname := status.hostname.getD unknownHost
  ip := status.ip.getD ""
  uptime := status.uptime.getD ""
  defaultRoute := (some status.defaultRoute).filter Route.isAvailable
  adminUrl := status.adminUrl
  olsr2On := status.olsr2On
  olsr2Info := olsr2Info
  error := none

/-- The region of a node that was asked for its capabilities. -/
def CapabilitiesRegion.ofOutcome : Outcome (Option Capabilities) → CapabilitiesRegion
  | .ok capabilities =>
    let capabilities := capabilities.getD .absent
    ⟨true, capabilities.traceroute, capabilities.showAdminLink, none⟩
  | .error failure => { CapabilitiesRegion.initial with error := some failure.diagnostic }

namespace TraceRegion

/-- The region of a trace towards the uplink. -/
def ofUplink (target : String) (hops : List Hop) : TraceRegion where
  target := target
  summary := "Traceroute to " ++ target ++ ": " ++ Trace.hopCount hops.length
  raw := none
  rows := (Table.ofHops hops).rows
  userRun := false

/-- The region while a trace to the given target is running. -/
def running (target : String) : TraceRegion where
  target := target
  summary := "Traceroute: running ..."
  raw := some "Running traceroute..."
  rows := []
  userRun := true

/-- The region of a trace that the operator ran. -/
def ofOutput (target output : String) : TraceRegion where
  target := target
  summary := Trace.summary output (Trace.ofOutput output)
  raw := if (Trace.ofOutput output).isEmpty then some output else none
  rows := (Table.ofHops (Trace.ofOutput output)).rows
  userRun := true

end TraceRegion

namespace Dashboard

/-- Shows what the node can do, or why it cannot be reached. -/
def showCapabilities (outcome : Outcome (Option Capabilities)) (dashboard : Dashboard) :
    Dashboard :=
  { dashboard with capabilities := .ofOutcome outcome }

/-- Shows the trace towards the uplink, if there is one and the operator has not run a trace. -/
def showUplink (status : Status) (dashboard : Dashboard) : Dashboard :=
  let hops := Trace.ofUplink status.traceToUplink
  if hops.isEmpty || dashboard.traceroute.userRun then dashboard
  else { dashboard with traceroute := .ofUplink (status.traceTarget.getD "") hops }

/-- Shows a status: the overview, the warning, three tables and the trace towards the uplink. -/
def showStatus (thresholds : Thresholds) (status : Status) (olsr2Info : String)
    (dashboard : Dashboard) : Dashboard :=
  let shown :=
    { dashboard with
      overview := .ofStatus status olsr2Info
      frequencyWarning := status.frequencyWarning thresholds
      devices := (Table.ofDevices status.radios status.devices).rows
      links := (Table.ofLinks status.links).rows
      neighbors := (Table.ofNeighbors status.neighbors).rows }
  (((shown.resort .devices).resort .links).resort .neighbors).showUplink status

/-- Says why there is no status. What was shown before stays. -/
def failStatus (failure : Failure) (dashboard : Dashboard) : Dashboard :=
  { dashboard with overview.error := some failure.diagnostic }

/-- Remembers the node directory. -/
def keepDirectory (directory : Directory) (dashboard : Dashboard) : Dashboard :=
  { dashboard with directory := some directory }

/-- The line that is shown while an answer is awaited. -/
def loading : String := "Loading..."

/-- Says that connections are being loaded. -/
def awaitConnections (dashboard : Dashboard) : Dashboard :=
  { dashboard with connections.status := loading }

/-- Shows the connections with the names that are known by now, or why there are none. -/
def showConnections (outcome : Outcome (Option Connections)) (dashboard : Dashboard) : Dashboard :=
  match outcome with
  | .ok connections =>
    let ports := (connections.getD .absent).ports
    let rows := (Table.ofPorts dashboard.directory ports).rows
    { dashboard with connections := ⟨"", rows⟩ }.resort .connections
  | .error failure => { dashboard with connections.status := failure.diagnostic }

/-- Says that versions are being loaded. -/
def awaitVersions (dashboard : Dashboard) : Dashboard :=
  { dashboard with versions.status := loading }

/-- Shows the versions, or why there are none. -/
def showVersions (outcome : Outcome Json) (dashboard : Dashboard) : Dashboard :=
  match outcome with
  | .ok versions => { dashboard with versions := ⟨"", some (.ofVersions versions)⟩ }
  | .error failure => { dashboard with versions.status := failure.diagnostic }

/-- Asks for a target. -/
def requestTarget (dashboard : Dashboard) : Dashboard :=
  { dashboard with traceroute.summary := "Enter target for traceroute" }

/-- Says that a trace is running. -/
def awaitTrace (target : String) (dashboard : Dashboard) : Dashboard :=
  { dashboard with traceroute := .running target }

/-- Shows the trace to a target. A failed one leaves the region of the running trace as it is, but
for its summary and the diagnostic. -/
def showTrace (target : String) (outcome : Outcome String) (dashboard : Dashboard) : Dashboard :=
  match outcome with
  | .ok output => { dashboard with traceroute := .ofOutput target output }
  | .error failure =>
    { dashboard with
      traceroute :=
        { dashboard.traceroute with
          raw := some failure.diagnostic
          summary := "Traceroute: failed" } }

end Dashboard

end MeshConsole
