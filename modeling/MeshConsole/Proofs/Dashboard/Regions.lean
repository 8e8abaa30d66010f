import MeshConsole.Dashboard.Load

/-!
# What an update does to each region

An update of the dashboard is written as a chain of small changes. Here each becomes one record
update: the regions that it replaces, each as a function of what was there before and of the little
that is read besides (the sort keys, the directory, whether the operator has run a trace).

    update, as a chain of changes ──▶ update = { dashboard with region := .., .. }

Everything that is said later about the order of updates is read off these equations.
-/

namespace MeshConsole

/-! ## Rows in the order that was asked for -/

/-- A table in the order of a key, or as it is if no key was asked for. -/
def Table.sortBy? (key : Option String) (table : Table) : Table :=
  match key with
  | some key => table.sortBy key
  | none => table

@[simp] theorem Table.sortRows_nil (index : Nat) : Table.sortRows index [] = [] := by
  simp [Table.sortRows]

namespace Dashboard

/-- Putting the rows of a table where they are changes nothing. -/
theorem withRows_rows (dashboard : Dashboard) (id : TableId) :
    dashboard.withRows id (dashboard.rows id) = dashboard := by
  cases id <;> rfl

theorem resort_eq (dashboard : Dashboard) (id : TableId) :
    dashboard.resort id =
      dashboard.withRows id ((dashboard.table id).sortBy? (dashboard.sortKeys id)).rows := by
  unfold resort
  cases h : dashboard.sortKeys id with
  | none =>
      show dashboard = dashboard.withRows id (dashboard.rows id)
      rw [withRows_rows]
  | some key => rfl

end Dashboard

/-! ## The trace after a status -/

/-- The region of the trace after a status was shown. -/
def TraceRegion.afterStatus (status : Status) (region : TraceRegion) : TraceRegion :=
  if (Trace.ofUplink status.traceToUplink).isEmpty || region.userRun then region
  else .ofUplink (status.traceTarget.getD "") (Trace.ofUplink status.traceToUplink)

/-- A trace that the operator has run stays. -/
theorem TraceRegion.afterStatus_of_userRun {region : TraceRegion} (status : Status)
    (h : region.userRun = true) : region.afterStatus status = region := by
  simp [TraceRegion.afterStatus, h]

namespace Dashboard

theorem showUplink_eq (status : Status) (dashboard : Dashboard) :
    dashboard.showUplink status =
      { dashboard with traceroute := dashboard.traceroute.afterStatus status } := by
  unfold showUplink TraceRegion.afterStatus
  dsimp only
  split <;> rfl

/-! ## Updates as record updates -/

theorem showStatus_eq (thresholds : Thresholds) (status : Status) (olsr2Info : String)
    (dashboard : Dashboard) :
    dashboard.showStatus thresholds status olsr2Info =
      { dashboard with
        overview := .ofStatus status olsr2Info
        frequencyWarning := status.frequencyWarning thresholds
        devices :=
          ((Table.ofDevices status.radios status.devices).sortBy?
            (dashboard.sortKeys .devices)).rows
        links := ((Table.ofLinks status.links).sortBy? (dashboard.sortKeys .links)).rows
        neighbors :=
          ((Table.ofNeighbors status.neighbors).sortBy? (dashboard.sortKeys .neighbors)).rows
        traceroute := dashboard.traceroute.afterStatus status } := by
  unfold showStatus
  rw [showUplink_eq, resort_eq, resort_eq, resort_eq]
  rfl

theorem showConnections_ok (connections : Option Connections) (dashboard : Dashboard) :
    dashboard.showConnections (.ok connections) =
      { dashboard with
        connections :=
          ⟨"", ((Table.ofPorts dashboard.directory (connections.getD .absent).ports).sortBy?
            (dashboard.sortKeys .connections)).rows⟩ } := by
  unfold showConnections
  dsimp only
  rw [resort_eq]
  rfl

end Dashboard

end MeshConsole
