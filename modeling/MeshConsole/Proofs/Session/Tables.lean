import MeshConsole.Proofs.Session.Record

/-!
# Tables over whole sessions

At every point of a session a table shows the rows that were rendered last, in some order
(`History.perm_rows`). Which order that is differs:

    loaded rows     the order of the key that was asked for last, from the moment they are loaded
    rows of a trace the order of the hops, until the operator sorts them again

So a remembered key says how a loaded table is ordered (`steps_loaded_rows`). Of the table of a
trace it says so only until the next trace (`steps_trace_inOrder_iff`).
-/

namespace MeshConsole

namespace Session

/-- The dashboard after the steps of a session. -/
def dashboardAfter (node : Node) (thresholds : Thresholds) (steps : List Step) : Dashboard :=
  ((Session.initial node thresholds).steps steps).console.dashboard

/-- The history after the steps of a session. -/
def historyAfter (node : Node) (thresholds : Thresholds) (steps : List Step) : History :=
  (Session.initial node thresholds).recordAll steps []

theorem tells_historyAfter (node : Node) (thresholds : Thresholds) (steps : List Step) :
    (historyAfter node thresholds steps).Tells (dashboardAfter node thresholds steps) :=
  ((Recorded.initial node thresholds).steps steps).tells

end Session

open Session (dashboardAfter historyAfter)

/-! ## Loaded tables -/

/-- **Rows of the loaded tables.** At every point of a session the rows of a loaded table are those
of its last successful load, in some order. As long as the table is not sorted after that load, they
are the stable sort of the loaded rows by the key that was asked for last, or the loaded rows as
they came if none was. That key is remembered, and whenever a key is, the rows are in its order. The
order of a key is that of the first column which has the key, or of the first column of all if none
has it. -/
theorem steps_loaded_rows (node : Node) (thresholds : Thresholds) (steps : List Step) (id : TableId)
    (hloaded : id ≠ .traceroute) :
    let history := historyAfter node thresholds steps
    let dashboard := dashboardAfter node thresholds steps
    (dashboard.rows id).Perm (history.source id) ∧
      (history.isFresh id = true →
        match history.key? id with
        | some key =>
          IsStableSort (Table.compareRows (Table.columnIndex id.columns key)) (history.source id)
            (dashboard.rows id)
        | none => dashboard.rows id = history.source id) ∧
      dashboard.sortKeys id = history.key? id ∧
      (∀ key, dashboard.sortKeys id = some key →
        InOrder (Table.compareRows (Table.columnIndex id.columns key)) (dashboard.rows id)) ∧
      ∀ key, Table.IsColumnOf id.columns key (Table.columnIndex id.columns key) := by
  intro history dashboard
  have htells := Session.tells_historyAfter node thresholds steps
  have hrestored : id.isRestored = true := by
    cases id with
    | traceroute => exact absurd rfl hloaded
    | _ => rfl
  rw [htells.rows_eq, htells.sortKeys_eq]
  refine ⟨history.perm_rows id, fun hfresh => ?_, rfl, fun key hkey => ?_,
    Table.isColumnOf_columnIndex id.columns⟩
  · rw [History.rows_of_isFresh hfresh]
    unfold History.restored?
    rw [if_pos hrestored]
    cases history.key? id with
    | none => rfl
    | some key => exact Table.isStableSort_sortBy id key _
  · exact History.inOrder_rows hkey (Or.inl hrestored)

/-- A node with three ports in no order, two of them on one bridge. -/
def Script.threePorts : Script :=
  [("connections", .answer .ok (Text.encode
    "\x7b\"ports\":[[\"10\",\"br10\"],[\"2\",\"br2\"],[\"1\",\"br2\"]]\x7d".toList))]

/-- Ports that are loaded after a sort by the second column are in the order of their bridges, and
the two on one bridge stand as the node lists them. After a sort by a key that no column has they are
in the order of their numbers. -/
theorem steps_loaded_rows_threePorts :
    let node := Node.atTest.withScript .threePorts
    let steps (key : String) : List Step := [.sort .connections key, .run (.load .connections)]
    let port (number bridge : String) : Row :=
      Port.row none ⟨some number, some bridge, [], [], none⟩
    let source := [port "10" "br10", port "2" "br2", port "1" "br2"]
    let rows (key : String) := (dashboardAfter node .standard (steps key)).rows .connections
    TableId.connections ≠ .traceroute ∧
      (historyAfter node .standard (steps "bridge")).source .connections = source ∧
      Table.IsColumnOf TableId.connections.columns "bridge" 1 ∧
      rows "bridge" = [port "2" "br2", port "1" "br2", port "10" "br10"] ∧
      (historyAfter node .standard (steps "speed")).source .connections = source ∧
      Table.IsColumnOf TableId.connections.columns "speed" 0 ∧
      rows "speed" = [port "1" "br2", port "2" "br2", port "10" "br10"] := by
  intro node steps port source rows
  have hloaded : TableId.connections ≠ .traceroute := by decide
  have hsorted (key : String)
      (hsource : (historyAfter node .standard (steps key)).source .connections = source)
      (hfresh : (historyAfter node .standard (steps key)).isFresh .connections = true)
      (hkey : (historyAfter node .standard (steps key)).key? .connections = some key) :
      IsStableSort (Table.compareRows (Table.columnIndex TableId.connections.columns key)) source
        (rows key) := by
    have hrows := (steps_loaded_rows node .standard (steps key) .connections hloaded).2.1 hfresh
    rw [hkey, hsource] at hrows
    exact hrows
  have hsource : (historyAfter node .standard (steps "bridge")).source .connections = source := by
    decide +kernel
  have hbridge := hsorted "bridge" hsource (by decide +kernel) (by decide +kernel)
  have hsource' : (historyAfter node .standard (steps "speed")).source .connections = source := by
    decide +kernel
  have hspeed := hsorted "speed" hsource' (by decide +kernel) (by decide +kernel)
  exact ⟨hloaded, hsource, by decide, hbridge.unique (by decide +kernel), hsource', by decide,
    hspeed.unique (by decide +kernel)⟩

/-! ## The table of a trace -/

/-- **Rows of a trace.** While a key is remembered for the table of a trace, the rows are in its
order if and only if the operator sorted them since they came, or they came in that order. Rows that
were not sorted since they came are shown as they came: the remembered key is not applied to them.
-/
theorem steps_trace_inOrder_iff (node : Node) (thresholds : Thresholds) (steps : List Step)
    (key : String)
    (hkey : (dashboardAfter node thresholds steps).sortKeys .traceroute = some key) :
    let history := historyAfter node thresholds steps
    let rows := (dashboardAfter node thresholds steps).rows .traceroute
    let order := Table.compareRows (Table.columnIndex TableId.traceroute.columns key)
    (InOrder order rows ↔
        history.isFresh .traceroute = false ∨ InOrder order (history.source .traceroute)) ∧
      (history.isFresh .traceroute = true → rows = history.source .traceroute) := by
  intro history rows order
  have htells := Session.tells_historyAfter node thresholds steps
  have hrows : rows = history.rows .traceroute := htells.rows_eq .traceroute
  have hcame : history.isFresh .traceroute = true → rows = history.source .traceroute :=
    fun hfresh => hrows.trans (History.rows_of_isFresh hfresh)
  refine ⟨?_, hcame⟩
  cases hfresh : history.isFresh .traceroute with
  | true =>
      rw [hcame hfresh]
      simp
  | false =>
      rw [htells.sortKeys_eq] at hkey
      rw [hrows]
      exact iff_of_true (History.inOrder_rows hkey (Or.inr hfresh)) (Or.inl rfl)

/-- A node whose trace has two hops, the higher address first. -/
def Script.twoHops : Script :=
  [("traceroute", .answer .ok
    (Text.encode
      "traceroute to 10.0.0.9\n1 south (10.0.0.7) 0.4ms\n2 north (10.0.0.1) 0.5ms".toList))]

/-- A trace that is sorted after it came is in the order of the key, though it did not come in it.
-/
theorem steps_trace_inOrder_iff_sorted :
    let node := Node.atTest.withScript .twoHops
    let steps : List Step := [.run (.trace "10.0.0.9"), .sort .traceroute "ip"]
    let history := historyAfter node .standard steps
    let dashboard := dashboardAfter node .standard steps
    dashboard.sortKeys .traceroute = some "ip" ∧
      ¬ InOrder (Table.compareRows 1) (history.source .traceroute) ∧
      InOrder (Table.compareRows 1) (dashboard.rows .traceroute) := by
  intro node steps history dashboard
  have hkey : dashboard.sortKeys .traceroute = some "ip" := by decide +kernel
  have hsorted : history.isFresh .traceroute = false := by decide +kernel
  refine ⟨hkey, by decide +kernel, ?_⟩
  exact (steps_trace_inOrder_iff node .standard steps "ip" hkey).1.mpr (Or.inl hsorted)

/-- A trace that comes after the operator has asked for an order is not in that order, though the
key is remembered. -/
theorem steps_trace_not_inOrder :
    let node := Node.atTest.withScript .twoHops
    let steps : List Step := [.sort .traceroute "ip", .run (.trace "10.0.0.9")]
    let dashboard := dashboardAfter node .standard steps
    dashboard.sortKeys .traceroute = some "ip" ∧
      (dashboard.rows .traceroute).map (Table.cellContent 1) =
        ["10.0.0.7".toList, "10.0.0.1".toList] ∧
      ¬ InOrder (Table.compareRows (Table.columnIndex TableId.traceroute.columns "ip"))
        (dashboard.rows .traceroute) := by
  intro node steps dashboard
  exact ⟨by decide +kernel, by decide +kernel, by decide +kernel⟩

end MeshConsole
