import MeshConsole.Proofs.Console.Effects
import MeshConsole.Proofs.Session.Tables
import MeshConsole.Proofs.Trace.HttpError

/-!
# Where the result of a trace is shown

The operator asks for a trace, and the browser is sent to the tab of traces to show what came of it:

    GET /traceroute?target=..  ──▶  the trace runs  ──▶  /?tab=traceroute

The tab is there if the node says that it can run traces, or if there are hops to show. What a run
leaves is hops, or a text in their place: an output without hops, or the diagnostic of a request
that failed. Such a text keeps no tab open. So from a node that has not said that it can run traces,
the browser arrives at the tab if and only if the run gave hops, and otherwise at the status
(`active_after_trace`), where the text is not shown.
-/

namespace MeshConsole

/-- The hops that a trace gives whose request is answered like this. -/
def Exchange.hops (exchange : Exchange) : List Hop :=
  match exchange.text with
  | .ok output => Trace.ofOutput output
  | .error _ => []

/-! ## The run -/

/-- A trace whose request is answered, or fails, comes to its end. -/
theorem Branch.run_traceTo {deliver : Endpoint → Delivery} {target : String}
    (htarget : Text.trim target ≠ "") {exchange : Exchange}
    (hexchange : (deliver (.traceroute (Text.trim target))).exchange? = some exchange)
    (dashboard : Dashboard) :
    let run := (Branch.traceTo target).run deliver dashboard
    run.finished = true ∧
      run.dashboard = (dashboard.awaitTrace (Text.trim target)).showTrace (Text.trim target)
        exchange.text := by
  have hnonempty : ¬ (Text.trim target).isEmpty = true := by simpa using htarget
  unfold traceTo
  dsimp only
  rw [if_neg hnonempty]
  unfold run run
  cases hdeliver : deliver (.traceroute (Text.trim target)) with
  | undelivered fault =>
      rw [hdeliver] at hexchange
      cases hexchange
      exact ⟨rfl, rfl⟩
  | delivered found =>
      rw [hdeliver] at hexchange
      cases hexchange
      exact ⟨rfl, rfl⟩
  | silent =>
      rw [hdeliver] at hexchange
      cases hexchange

namespace Dashboard

variable (dashboard : Dashboard) (target : String) (exchange : Exchange)

/-- Hops are shown as the rows of the table; where there are none, a text stands in their place. -/
theorem traceroute_showTrace :
    let region := ((dashboard.awaitTrace target).showTrace target exchange.text).traceroute
    region.rows = (Table.ofHops exchange.hops).rows ∧
      region.raw = if exchange.hops = [] then some (Outcome.shown exchange.text) else none := by
  unfold Exchange.hops
  cases exchange.text with
  | error failure => exact ⟨rfl, rfl⟩
  | ok output =>
      refine ⟨rfl, ?_⟩
      by_cases hhops : Trace.ofOutput output = []
      · rw [if_pos hhops]
        exact ((TraceRegion.ofOutput_shows_iff target output).mpr hhops).2
      · rw [if_neg hhops]
        exact (TraceRegion.ofOutput_of_ne_nil target output hhops).1

theorem isVisible_traceroute_showTrace :
    Tab.isVisible ((dashboard.awaitTrace target).showTrace target exchange.text) .traceroute =
      (dashboard.capabilities.traceroute || !exchange.hops.isEmpty) := by
  have hrows := (dashboard.traceroute_showTrace target exchange).1
  have hcapabilities : ((dashboard.awaitTrace target).showTrace target
      exchange.text).capabilities = dashboard.capabilities := by
    cases exchange.text <;> rfl
  unfold Tab.isVisible
  rw [hrows, hcapabilities, Table.ofHops, List.isEmpty_map]

end Dashboard

/-- A tab that is asked for is shown if it is there; else the status is shown. -/
theorem Tab.active_id (dashboard : Dashboard) (tab : Tab) :
    Tab.active dashboard (some tab.id) = if tab.isVisible dashboard then tab else .status := by
  have hid : Tab.ofId? tab.id = some tab := by cases tab <;> rfl
  unfold active
  rw [Option.bind_some, hid]
  cases h : tab.isVisible dashboard <;> simp [Option.filter, h]

/-! ## The request -/

/-- **The tab after a trace.** A request for a trace to a target that is not blank is answered with
the address of the tab of traces. The run leaves its hops as rows, or in their place the output or
the diagnostic. But what is shown under that address is the tab of traces if and only if the node
had said that it can run traces, or the run gave hops; otherwise it is the status. -/
theorem active_after_trace (console : Console) (order : LoadOrder) (request : Request)
    (target : String) (exchange : Exchange) (hmethod : request.method = "GET")
    (hpath : request.target.path = "/traceroute".toList)
    (hparameter : parameter? request.target.query "target" = .ok (some target))
    (htarget : Text.trim target ≠ "")
    (hexchange :
      (console.node.deliver (.traceroute (Text.trim target))).exchange? = some exchange) :
    let run := (console.handle order request).1
    let response := (console.handle order request).2
    let region := run.dashboard.traceroute
    run.finished = true ∧ response.location = some "/?tab=traceroute" ∧
      region.rows = (Table.ofHops exchange.hops).rows ∧
      (region.raw = if exchange.hops = [] then some (Outcome.shown exchange.text) else none) ∧
      Tab.active run.dashboard (some "traceroute") =
        if console.dashboard.capabilities.traceroute = true ∨ exchange.hops ≠ [] then .traceroute
        else .status := by
  have haction := Action.ofRequest_trace hmethod hpath hparameter
  obtain ⟨hfinished, hdashboard⟩ := Branch.run_traceTo htarget hexchange console.dashboard
  obtain ⟨hrows, hraw⟩ := console.dashboard.traceroute_showTrace (Text.trim target) exchange
  intro run response region
  have hrun : run = console.perform order (.trace target) := by
    show (console.handle order request).1 = _
    rw [Console.handle_of_accepted haction]
  have hresponse : response = .redirect Tab.traceroute.location := by
    show (console.handle order request).2 = _
    rw [Console.handle_of_accepted haction, hmethod]
    rfl
  have hshown : run.dashboard = (console.dashboard.awaitTrace (Text.trim target)).showTrace
      (Text.trim target) exchange.text := by
    rw [hrun]
    exact hdashboard
  refine ⟨?_, ?_, ?_, ?_, ?_⟩
  · show run.finished = true
    rw [hrun]
    exact hfinished
  · rw [hresponse]
    rfl
  · show run.dashboard.traceroute.rows = _
    rw [hshown, hrows]
  · show run.dashboard.traceroute.raw = _
    rw [hshown, hraw]
  · show Tab.active run.dashboard (some Tab.traceroute.id) = _
    rw [Tab.active_id, hshown, Dashboard.isVisible_traceroute_showTrace]
    simp

/-- A node that does not say that it can run traces, but keeps a trace towards its uplink. -/
def Script.uplinkOnly : Script :=
  [("capabilities", .answer .ok (Text.encode "\x7b\x7d".toList)),
   ("status", .answer .ok (Text.encode
     "\x7b\"trace_to_uplink\": [\x7b\"hop\": 1, \"ip\": \"10.0.0.1\"\x7d]\x7d".toList))]

/-- The same node, if it answers to a trace. -/
def Script.oneHop : Script :=
  ("traceroute", .answer .ok (Text.encode
    "traceroute to 10.0.0.9\n1 north (10.0.0.1) 0.5ms".toList)) :: uplinkOnly

/-- The request of the form on the tab of traces. -/
def Request.traceForm : Request := ⟨"GET", "/traceroute".toList, "target=10.0.0.9".toList⟩

/-- A run that gives a hop is shown, although the node does not say that it can run traces. -/
theorem active_after_trace_oneHop :
    let node := Node.atTest.withScript .oneHop
    let exchange : Exchange := .ok ⟨.ok, "traceroute to 10.0.0.9\n1 north (10.0.0.1) 0.5ms"⟩
    let run := ((Console.initial node .standard).handle .directoryFirst .traceForm).1
    Request.traceForm.method = "GET" ∧ Request.traceForm.target.path = "/traceroute".toList ∧
      parameter? Request.traceForm.target.query "target" = .ok (some "10.0.0.9") ∧
      Text.trim "10.0.0.9" ≠ "" ∧
      (node.deliver (.traceroute (Text.trim "10.0.0.9"))).exchange? = some exchange ∧
      run.finished = true ∧ run.dashboard.traceroute.raw = none ∧
      Tab.active run.dashboard (some "traceroute") = .traceroute := by
  intro node exchange run
  have hparameter : parameter? Request.traceForm.target.query "target" =
      .ok (some "10.0.0.9") := by rfl
  have htarget : Text.trim "10.0.0.9" ≠ "" := by decide +kernel
  have hexchange : (node.deliver (.traceroute (Text.trim "10.0.0.9"))).exchange? =
      some exchange := by rfl
  have hhops : exchange.hops ≠ [] := by decide +kernel
  obtain ⟨hfinished, -, -, hraw, hactive⟩ := active_after_trace (.initial node .standard)
    .directoryFirst .traceForm "10.0.0.9" exchange rfl rfl hparameter htarget hexchange
  rw [if_neg hhops] at hraw
  rw [if_pos (Or.inr hhops)] at hactive
  exact ⟨rfl, rfl, hparameter, htarget, hexchange, hfinished, hraw, hactive⟩

/-- The tab shows the trace towards the uplink. A run that fails clears these rows, and with them
goes the tab under whose address the browser looks for the diagnostic. -/
theorem trace_hides_tab :
    let node := Node.atTest.withScript .uplinkOnly
    let console : Console :=
      ⟨node, .standard, Session.dashboardAfter node .standard [.loadAll .directoryFirst]⟩
    let handled := console.handle .directoryFirst .traceForm
    Tab.active console.dashboard (some "traceroute") = .traceroute ∧
      handled.1.finished = true ∧ handled.2.location = some "/?tab=traceroute" ∧
      handled.1.dashboard.traceroute.raw = some "HTTP 404 Not Found\n" ∧
      Tab.active handled.1.dashboard (some "traceroute") = .status := by
  decide +kernel

end MeshConsole
