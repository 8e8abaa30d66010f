import MeshConsole.Proofs.Concurrency.Traces
import MeshConsole.Proofs.Session.Tables
import MeshConsole.Proofs.Text.Trim

/-!
# Where the trace that is shown comes from

The region of the trace is written by a status that brings the trace towards the uplink, by a trace
that the operator begins, and by the result of that trace. Two more writers touch a part of it only: a
sort puts its rows into another order, and a trace without a target puts a request into its summary.

    uplink ──▶ prefill            until the operator has run a trace
    began  ──▶ running            from then on
    result ──▶ running, settled

So at every point of a session the region is what one of the first three brought, up to the order of
its rows and the request (`TraceRegion.Shows`), and the history tells which of them it was
(`History.Brings`). What holds of these three holds of the region (`steps_trace_region`).
-/

namespace MeshConsole

/-! ## Targets -/

/-- Neither the first nor the last character of a text is blank. -/
def Text.IsTrimmed (text : String) : Prop :=
  ∀ c, text.toList.head? = some c ∨ text.toList.getLast? = some c → Text.isBlank c = false

theorem Text.isTrimmed_trim (text : String) : Text.IsTrimmed (Text.trim text) := by
  have hclear := Text.endsClear_trimEnds Text.isBlank text.toList
  intro c hc
  unfold Text.trim at hc
  rw [String.toList_ofList] at hc
  exact hc.elim (hclear.head c) (hclear.last c)

/-! ## What is brought and what is shown -/

namespace TraceRegion

/-- The summary that asks for a target. -/
def request : String := "Enter target for traceroute"

/-- The region that a status brings. -/
def prefill (status : Status) : TraceRegion :=
  .ofUplink (status.traceTarget.getD "") (Trace.ofUplink status.traceToUplink)

/-- What stands in front of the number of hops in the summary of a region. -/
def heading (region : TraceRegion) : String :=
  if region.userRun then "Traceroute: " else "Traceroute to " ++ region.target ++ ": "

/-- A region shows what was brought, but for the order of the rows and for a request in the place of
the summary. -/
structure Shows (brought region : TraceRegion) : Prop where
  target_eq : region.target = brought.target
  raw_eq : region.raw = brought.raw
  userRun_eq : region.userRun = brought.userRun
  perm_rows : region.rows.Perm brought.rows
  summary_eq : region.summary = brought.summary ∨ region.summary = request

namespace Shows

variable {brought region : TraceRegion}

@[refl] theorem refl (region : TraceRegion) : region.Shows region :=
  ⟨rfl, rfl, rfl, .refl _, Or.inl rfl⟩

theorem requested (h : brought.Shows region) : brought.Shows { region with summary := request } :=
  ⟨h.target_eq, h.raw_eq, h.userRun_eq, h.perm_rows, Or.inr rfl⟩

theorem sorted (h : brought.Shows region) (key : String) :
    brought.Shows { region with rows := ((Table.mk .traceroute region.rows).sortBy key).rows } :=
  ⟨h.target_eq, h.raw_eq, h.userRun_eq,
    (Table.isStableSort_sortBy .traceroute key region.rows).perm.trans h.perm_rows, h.summary_eq⟩

theorem rows_eq_nil_iff (h : brought.Shows region) : region.rows = [] ↔ brought.rows = [] := by
  rw [← List.length_eq_zero_iff, h.perm_rows.length_eq, List.length_eq_zero_iff]

end Shows

/-- A region whose summary, if there are rows, gives their number. -/
def CountsRows (region : TraceRegion) : Prop :=
  region.rows ≠ [] → region.summary = region.heading ++ Trace.hopCount region.rows.length

theorem countsRows_ofUplink (target : String) (hops : List Hop) :
    (ofUplink target hops).CountsRows := by
  intro _
  simp [ofUplink, heading, Table.ofHops]

theorem countsRows_settle_running (target : String) (outcome : Outcome String) :
    ((running target).settle target outcome).CountsRows := by
  cases outcome with
  | ok output =>
      intro hrows
      -- Rows come from hops, so the summary is not the one of an output without hops.
      have hhops : (Trace.ofOutput output).isEmpty = false := by
        cases hempty : Trace.ofOutput output with
        | nil => simp [settle, ofOutput, Table.ofHops, hempty] at hrows
        | cons hop hops => rfl
      simp [settle, ofOutput, Trace.summary, hhops, heading, Table.ofHops]
  | error failure => exact fun hrows => absurd rfl hrows

/-- An output is shown if and only if it gave no hops, a diagnostic if and only if there is one. -/
theorem isSome_raw_settle_running (target : String) (outcome : Outcome String) :
    ((running target).settle target outcome).raw.isSome = true ↔
      ((running target).settle target outcome).rows = [] := by
  cases outcome with
  | ok output => cases h : Trace.ofOutput output <;> simp [settle, ofOutput, Table.ofHops, h]
  | error failure => exact iff_of_true rfl rfl

@[simp] theorem target_settle (target : String) (outcome : Outcome String) :
    ((running target).settle target outcome).target = target := by
  cases outcome <;> rfl

@[simp] theorem userRun_settle (target : String) (outcome : Outcome String) :
    ((running target).settle target outcome).userRun = true := by
  cases outcome <;> rfl

end TraceRegion

/-! ## What the history tells -/

/-- A status that an event brings together with a trace towards the uplink. -/
def Event.uplink? : Event → Option Status
  | .status loaded => if (Trace.ofUplink loaded.traceToUplink).isEmpty then none else some loaded
  | _ => none

namespace History

/-- The status that brought a trace towards the uplink last. -/
def uplink? (history : History) : Option Status := history.findSome? Event.uplink?

/-- The region as long as the operator has not run a trace. -/
def prefill (history : History) : TraceRegion :=
  match history.uplink? with
  | some status => .prefill status
  | none => .initial

/-- What was brought last to the region of the trace, as far as a history tells. -/
inductive Brings : History → TraceRegion → Prop
  | prefill {history : History} (hfree : history.traced = false) : Brings history history.prefill
  | running {history : History} (target : String) (hrun : history.traced = true)
      (htarget : ¬ (Text.trim target).isEmpty) : Brings history (.running (Text.trim target))
  | settled {history : History} (target : String) (outcome : Outcome String)
      (hrun : history.traced = true) (htarget : ¬ (Text.trim target).isEmpty) :
      Brings history ((TraceRegion.running (Text.trim target)).settle (Text.trim target) outcome)

namespace Brings

variable {history : History} {brought : TraceRegion}

theorem userRun_eq (h : history.Brings brought) : brought.userRun = history.traced := by
  cases h with
  | prefill hfree =>
      rw [hfree]
      unfold History.prefill
      split <;> rfl
  | running target hrun htarget => exact hrun.symm
  | settled target outcome hrun htarget => rw [hrun, TraceRegion.userRun_settle]

theorem countsRows (h : history.Brings brought) : brought.CountsRows := by
  cases h with
  | prefill hfree =>
      unfold History.prefill
      split
      · exact TraceRegion.countsRows_ofUplink _ _
      · exact fun hrows => absurd rfl hrows
  | running target hrun htarget => exact fun hrows => absurd rfl hrows
  | settled target outcome hrun htarget => exact TraceRegion.countsRows_settle_running _ outcome

theorem eq_prefill (h : history.Brings brought) (hfree : history.traced = false) :
    brought = history.prefill := by
  cases h with
  | prefill _ => rfl
  | running target hrun htarget => rw [hfree] at hrun; cases hrun
  | settled target outcome hrun htarget => rw [hfree] at hrun; cases hrun

/-- There is something to show beside the hops only if the operator has run a trace. -/
theorem raw_eq_none (h : history.Brings brought) (hfree : history.traced = false) :
    brought.raw = none := by
  rw [h.eq_prefill hfree]
  unfold History.prefill
  split <;> rfl

theorem isSome_raw_iff (h : history.Brings brought) (hrun : history.traced = true) :
    brought.raw.isSome = true ↔ brought.rows = [] := by
  cases h with
  | prefill hfree => rw [hfree] at hrun; cases hrun
  | running target _ htarget => exact iff_of_true rfl rfl
  | settled target outcome _ htarget => exact TraceRegion.isSome_raw_settle_running _ outcome

/-- A trace that the operator has run has the trimmed text that was asked for as its target. -/
theorem exists_target (h : history.Brings brought) (hrun : history.traced = true) :
    ∃ target, ¬ (Text.trim target).isEmpty ∧ brought.target = Text.trim target := by
  cases h with
  | prefill hfree => rw [hfree] at hrun; cases hrun
  | running target _ htarget => exact ⟨target, htarget, rfl⟩
  | settled target outcome _ htarget => exact ⟨target, htarget, TraceRegion.target_settle _ outcome⟩

/-- An event that is not of a trace, and brings none towards the uplink as long as that counts. -/
theorem cons (h : history.Brings brought) {event : Event} (htrace : event.isTrace = false)
    (huplink : history.traced = false → event.uplink? = none) :
    History.Brings (event :: history) brought := by
  have htraced : History.traced (event :: history) = history.traced := by
    simp [History.traced, htrace]
  cases h with
  | prefill hfree =>
      have hprefill : History.prefill (event :: history) = history.prefill := by
        simp [History.prefill, History.uplink?, huplink hfree]
      rw [← hprefill]
      exact .prefill (htraced.trans hfree)
  | running target hrun htarget => exact .running target (htraced.trans hrun) htarget
  | settled target outcome hrun htarget =>
      exact .settled target outcome (htraced.trans hrun) htarget

end Brings

/-- A history tells what the region of the trace shows. -/
def TellsTrace (history : History) (region : TraceRegion) : Prop :=
  ∃ brought, history.Brings brought ∧ brought.Shows region

namespace TellsTrace

variable {history : History} {region : TraceRegion}

theorem initial : History.TellsTrace [] .initial := ⟨_, .prefill rfl, .refl _⟩

theorem userRun_eq (h : history.TellsTrace region) : region.userRun = history.traced := by
  obtain ⟨brought, hbrings, hshows⟩ := h
  rw [hshows.userRun_eq, hbrings.userRun_eq]

theorem cons (h : history.TellsTrace region) {event : Event} (htrace : event.isTrace = false)
    (huplink : history.traced = false → event.uplink? = none) :
    History.TellsTrace (event :: history) region := by
  obtain ⟨brought, hbrings, hshows⟩ := h
  exact ⟨brought, hbrings.cons htrace huplink, hshows⟩

/-- A status brings the trace towards the uplink, unless it has none or the operator has run a trace.
-/
theorem status (h : history.TellsTrace region) (loaded : Status) :
    History.TellsTrace (.status loaded :: history) (region.afterStatus loaded) := by
  unfold TraceRegion.afterStatus
  rw [h.userRun_eq]
  cases hempty : (Trace.ofUplink loaded.traceToUplink).isEmpty with
  | true => exact h.cons rfl fun _ => if_pos hempty
  | false =>
      cases htraced : history.traced with
      | true =>
          -- The operator's trace stays, though the event does bring another one.
          exact h.cons rfl fun hfree => by rw [htraced] at hfree; cases hfree
      | false =>
          have huplink : (Event.status loaded).uplink? = some loaded :=
            if_neg (Bool.eq_false_iff.mp hempty)
          have hprefill : History.prefill (.status loaded :: history) = .prefill loaded := by
            simp [History.prefill, History.uplink?, huplink]
          refine ⟨.prefill loaded, ?_, .refl _⟩
          rw [← hprefill]
          exact .prefill htraced

theorem requested (h : history.TellsTrace region) :
    history.TellsTrace { region with summary := TraceRegion.request } := by
  obtain ⟨brought, hbrings, hshows⟩ := h
  exact ⟨brought, hbrings, hshows.requested⟩

theorem traced (history : History) {target : String} (outcome : Outcome String)
    (htarget : ¬ (Text.trim target).isEmpty) :
    History.TellsTrace (outcome.event?.toList ++ .began :: history)
      ((TraceRegion.running (Text.trim target)).settle (Text.trim target) outcome) := by
  refine ⟨_, .settled target outcome ?_ htarget, .refl _⟩
  simp [History.traced, Event.isTrace]

theorem sorted (h : history.TellsTrace region) (key : String) :
    History.TellsTrace (.sorted .traceroute key :: history)
      { region with rows := ((Table.mk .traceroute region.rows).sortBy key).rows } := by
  obtain ⟨brought, hbrings, hshows⟩ := h
  exact ⟨brought, hbrings.cons rfl fun _ => rfl, hshows.sorted key⟩

/-- What the region shows is kept by everything that happens in a session, as long as no result of a
trace comes late. -/
theorem invariant :
    SessionInvariant fun history dashboard => history.TellsTrace dashboard.traceroute where
  quiet h hsame := hsame.traceroute_eq ▸ h
  status thresholds _ olsr2Info _ h := by
    rw [Dashboard.showStatus_eq]
    exact h.status _
  directory _ h := h.cons rfl fun _ => rfl
  ports _ h := by
    rw [Dashboard.showConnections_ok]
    exact h.cons rfl fun _ => rfl
  requested h := h.requested
  began htarget _ := ⟨_, .running _ rfl htarget, .refl _⟩
  traced outcome htarget _ := by
    rw [TraceRegion.showTrace_traceroute, TraceRegion.awaitTrace_traceroute]
    exact traced _ outcome htarget
  sorted id key h := by
    cases id with
    | traceroute => exact h.sorted key
    | _ => exact h.cons rfl fun _ => rfl

end TellsTrace

end History

/-! ## The operator's trace stays -/

/-- Loads leave a trace alone that the operator has run. -/
theorem TraceRegion.loadInvariant {region : TraceRegion} (hrun : region.userRun = true) :
    LoadInvariant fun _ dashboard => dashboard.traceroute = region where
  quiet h hsame := hsame.traceroute_eq.trans h
  status thresholds _ olsr2Info _ h := by
    rw [Dashboard.showStatus_eq]
    show TraceRegion.afterStatus _ _ = region
    rw [h, TraceRegion.afterStatus_of_userRun _ hrun]
  directory _ h := h
  ports _ h := by
    rw [Dashboard.showConnections_ok]
    exact h

/-- That the operator has run a trace is never forgotten. -/
theorem TraceRegion.userRun_invariant :
    OverlapInvariant fun _ dashboard => dashboard.traceroute.userRun = true where
  quiet h hsame := (congrArg TraceRegion.userRun hsame.traceroute_eq).trans h
  status thresholds _ olsr2Info _ h := by
    rw [Dashboard.showStatus_eq]
    show (TraceRegion.afterStatus _ _).userRun = true
    rw [TraceRegion.afterStatus_of_userRun _ h, h]
  directory _ h := h
  ports _ h := by
    rw [Dashboard.showConnections_ok]
    exact h
  requested h := h
  began _ _ := rfl
  traced outcome _ _ := by
    rw [TraceRegion.showTrace_traceroute, TraceRegion.awaitTrace_traceroute,
      TraceRegion.userRun_settle]
  sorted id key h := by cases id <;> exact h
  late target outcome h := by cases outcome <;> first | rfl | exact h

namespace Session

theorem dashboardAfter_append (node : Node) (thresholds : Thresholds) (steps later : List Step) :
    dashboardAfter node thresholds (steps ++ later) =
      (((initial node thresholds).steps steps).steps later).console.dashboard := by
  unfold dashboardAfter Session.steps
  rw [List.foldl_append]

/-- The region of the trace after steps of which none finishes a branch of an earlier one. -/
theorem tellsTrace_historyAfter (node : Node) (thresholds : Thresholds) {steps : List Step}
    (hsteps : ∀ name, Step.finish name ∉ steps) :
    (historyAfter node thresholds steps).TellsTrace
      (dashboardAfter node thresholds steps).traceroute :=
  History.TellsTrace.invariant.steps .initial hsteps

end Session

open Session (dashboardAfter historyAfter)

/-- A node that tells a trace towards its uplink, and has one hop to any other target. -/
def Script.uplinkAndHop : Script :=
  [("status", .answer .ok
    (Text.encode
      "\x7b\"trace_target\":\"gate\",\"trace_to_uplink\":[\x7b\"hop\":1\x7d]\x7d".toList)),
   ("traceroute", .answer .ok
    (Text.encode "traceroute to 10.0.0.9\n1 south (10.0.0.7) 0.4ms".toList))]

end MeshConsole
