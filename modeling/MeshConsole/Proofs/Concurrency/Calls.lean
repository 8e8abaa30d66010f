import MeshConsole.Proofs.Concurrency.Schedule
import MeshConsole.Proofs.Dashboard.Answered
import MeshConsole.Proofs.Dashboard.Regions

/-!
# Calls on a shared dashboard

Any number of calls can be under way on one dashboard: loads of its parts, traces, sorts. Each is a
sequence of atomic sections, and what its requests result in is its own.

    capabilities, status, sort     one section
    directory                      one section, none if the fetch failed
    connections, versions          "Loading...", then the result
    trace to a target              "running", then the result
    trace without a target         one section

The first of two sections writes transient fields only: the line above the connections, the line
above the versions, or the region of the trace. All other sections are `Steady`: they take these
fields as they come. The second of two sections overwrites what the first one wrote.

A session that starts a branch and finishes it later applies these same sections
(`Branch.advance_resume`).
-/

namespace MeshConsole

/-! ## Calls -/

/-- What can be called on a dashboard. -/
inductive Operation where
  | load (part : Part)
  | trace (target : String)
  | sort (table : TableId) (key : String)
deriving Repr, DecidableEq

namespace Operation

/-- The branch of an operation. -/
def branch (thresholds : Thresholds) : Operation → Branch
  | load part => part.branch thresholds
  | trace target => .traceTo target
  | sort table key => .write (fun dashboard => dashboard.sort table key) .done

/-- The target of an operation that runs a trace to one. -/
def target? : Operation → Option String
  | trace target => if (Text.trim target).isEmpty then none else some (Text.trim target)
  | _ => none

end Operation

/-- A call: an operation, and what comes of the requests that it makes. -/
structure Call where
  operation : Operation
  answer : Endpoint → Exchange

namespace Call

/-- The sections of a call. A call that writes nothing ends in an empty section. -/
def sections (thresholds : Thresholds) (call : Call) : List (Dashboard → Dashboard) :=
  match (call.operation.branch thresholds).updates call.answer with
  | [] => [id]
  | updates => updates

/-- The dashboard after a call that runs by itself. -/
def run (thresholds : Thresholds) (call : Call) (dashboard : Dashboard) : Dashboard :=
  ((call.operation.branch thresholds).run (fun endpoint => .delivered (call.answer endpoint))
    dashboard).dashboard

/-- A call that runs by itself applies its sections one after the other. -/
theorem runSections_sections (thresholds : Thresholds) (call : Call) (dashboard : Dashboard) :
    runSections (call.sections thresholds) dashboard = call.run thresholds dashboard := by
  have hanswers : Answers (fun endpoint => .delivered (call.answer endpoint)) call.answer :=
    fun endpoint => rfl
  rw [run, (Branch.run_of_answers hanswers _ dashboard).1, Branch.after, sections]
  cases (call.operation.branch thresholds).updates call.answer with
  | nil => rfl
  | cons update updates => rfl

theorem sections_ne_nil (thresholds : Thresholds) (call : Call) :
    call.sections thresholds ≠ [] := by
  unfold sections
  cases (call.operation.branch thresholds).updates call.answer with
  | nil => simp
  | cons update updates => simp

end Call

/-! ### Calls that are held up

A session runs a branch up to the first request that reaches the node, and resumes it when the node
answers, from whatever dashboard there is by then. That cuts the sections of the branch in two. -/

/-- The rest of a branch, from the answer to the request that it waits for. -/
theorem Pending.resume_of_answers {deliver : Endpoint → Delivery} {answer : Endpoint → Exchange}
    (h : Answers deliver answer) (pending : Pending) (dashboard : Dashboard) :
    (pending.resume deliver dashboard).dashboard =
      (pending.next (answer pending.endpoint)).after answer dashboard := by
  have hanswer := h pending.endpoint
  unfold resume
  cases hdeliver : deliver pending.endpoint with
  | undelivered fault =>
      rw [hdeliver] at hanswer
      rw [← Option.some.inj hanswer]
      exact (Branch.run_of_answers h _ dashboard).1
  | delivered exchange =>
      rw [hdeliver] at hanswer
      rw [← Option.some.inj hanswer]
      exact (Branch.run_of_answers h _ dashboard).1
  | silent =>
      rw [hdeliver] at hanswer
      cases hanswer

/-- A branch comes to its end at once, or it applies the first of its sections, waits, and applies
the others when it is resumed. What fails before it is sent fails at both times. -/
theorem Branch.advance_resume {deliver deliver' : Endpoint → Delivery}
    {answer : Endpoint → Exchange}
    (hfault : ∀ endpoint fault, deliver endpoint = .undelivered fault →
      deliver' endpoint = .undelivered fault)
    (h : Answers deliver' answer) (branch : Branch) :
    (∀ dashboard, branch.advance deliver dashboard = (branch.after answer dashboard, none)) ∨
      ∃ before after pending, branch.updates answer = before ++ after ∧
        (∀ dashboard,
          branch.advance deliver dashboard = (runSections before dashboard, some pending)) ∧
        ∀ dashboard, (pending.resume deliver' dashboard).dashboard = runSections after dashboard := by
  induction branch with
  | done => exact Or.inl fun dashboard => rfl
  | write update next ih =>
      rcases ih with hdone | ⟨before, after, pending, hupdates, hadvance, hresume⟩
      · exact Or.inl fun dashboard => hdone (update dashboard)
      · refine Or.inr ⟨update :: before, after, pending, ?_, ?_, hresume⟩
        · rw [updates, hupdates]
          rfl
        · exact fun dashboard => hadvance (update dashboard)
  | ask endpoint next ih =>
      cases hdeliver : deliver endpoint with
      | undelivered fault =>
          -- Nobody waits for a request that is not sent: the branch goes on with the fault.
          have hanswer := h endpoint
          rw [hfault endpoint fault hdeliver] at hanswer
          have heq : answer endpoint = .error fault := (Option.some.inj hanswer).symm
          simp only [advance, hdeliver, updates, after_ask, heq]
          exact ih (.error fault)
      | delivered exchange =>
          refine Or.inr ⟨[], (ask endpoint next).updates answer, ⟨endpoint, next⟩, rfl, ?_, ?_⟩
          · intro dashboard
            rw [advance, hdeliver]
            rfl
          · exact fun dashboard => Pending.resume_of_answers h ⟨endpoint, next⟩ dashboard
      | silent =>
          refine Or.inr ⟨[], (ask endpoint next).updates answer, ⟨endpoint, next⟩, rfl, ?_, ?_⟩
          · intro dashboard
            rw [advance, hdeliver]
            rfl
          · exact fun dashboard => Pending.resume_of_answers h ⟨endpoint, next⟩ dashboard

/-! ## Transient fields -/

/-- The dashboard with other lines above the connections and the versions, and another trace. -/
def Dashboard.withTransient (dashboard : Dashboard) (connectionsLine versionsLine : String)
    (trace : TraceRegion) : Dashboard :=
  { dashboard with
    connections.status := connectionsLine
    versions.status := versionsLine
    traceroute := trace }

/-- The region of a trace to the given target that runs, up to what is said about it. -/
structure TraceRegion.IsRunning (target : String) (region : TraceRegion) : Prop where
  target_eq : region.target = target
  rows_eq : region.rows = []
  userRun_eq : region.userRun = true

theorem TraceRegion.isRunning_running (target : String) :
    (TraceRegion.running target).IsRunning target := ⟨rfl, rfl, rfl⟩

/-- An update that takes the transient fields as they come: it keeps the two lines, changes the trace
as a function of the trace, and leaves a running trace running. -/
def Steady (update : Dashboard → Dashboard) : Prop :=
  ∃ change : TraceRegion → TraceRegion,
    (∀ dashboard connectionsLine versionsLine trace,
      update (dashboard.withTransient connectionsLine versionsLine trace) =
        (update dashboard).withTransient connectionsLine versionsLine (change trace)) ∧
    ∀ target region, region.IsRunning target → (change region).IsRunning target

namespace Steady

theorem nothing : Steady id := ⟨fun trace => trace, fun _ _ _ _ => rfl, fun _ _ h => h⟩

theorem showCapabilities (outcome : Outcome (Option Capabilities)) :
    Steady (Dashboard.showCapabilities outcome) :=
  ⟨fun trace => trace, fun _ _ _ _ => rfl, fun _ _ h => h⟩

theorem failStatus (failure : Failure) : Steady (Dashboard.failStatus failure) :=
  ⟨fun trace => trace, fun _ _ _ _ => rfl, fun _ _ h => h⟩

/-- A status may bring the trace towards the uplink, but not while a trace is running. -/
theorem showStatus (thresholds : Thresholds) (status : Status) (olsr2Info : String) :
    Steady (Dashboard.showStatus thresholds status olsr2Info) := by
  refine ⟨TraceRegion.afterStatus status, ?_, ?_⟩
  · intro dashboard connectionsLine versionsLine trace
    rw [Dashboard.showStatus_eq, Dashboard.showStatus_eq]
    rfl
  · intro target region h
    rw [TraceRegion.afterStatus_of_userRun status h.userRun_eq]
    exact h

theorem keepDirectory (directory : Directory) : Steady (Dashboard.keepDirectory directory) :=
  ⟨fun trace => trace, fun _ _ _ _ => rfl, fun _ _ h => h⟩

theorem requestTarget : Steady Dashboard.requestTarget :=
  ⟨fun trace => { trace with summary := "Enter target for traceroute" }, fun _ _ _ _ => rfl,
    fun _ _ h => ⟨h.target_eq, h.rows_eq, h.userRun_eq⟩⟩

/-- A sort of the trace finds no rows while a trace is running. -/
theorem sort (table : TableId) (key : String) :
    Steady fun dashboard => dashboard.sort table key := by
  cases table with
  | traceroute =>
      refine ⟨fun trace =>
        { trace with rows := ((Table.mk .traceroute trace.rows).sortBy key).rows },
        fun _ _ _ _ => rfl, ?_⟩
      intro target region h
      refine ⟨h.target_eq, ?_, h.userRun_eq⟩
      show Table.sortRows _ region.rows = []
      rw [h.rows_eq, Table.sortRows_nil]
  | _ => exact ⟨fun trace => trace, fun _ _ _ _ => rfl, fun _ _ h => h⟩

end Steady

/-! ### Results that make up for a first section -/

namespace Dashboard

variable (dashboard : Dashboard) (connectionsLine versionsLine : String) (trace : TraceRegion)

/-- The result of the connections overwrites the line above them, whatever it is. -/
theorem showConnections_withTransient (outcome : Outcome (Option Connections)) :
    (dashboard.withTransient connectionsLine versionsLine trace).showConnections outcome =
      (dashboard.awaitConnections.showConnections outcome).withTransient
        (dashboard.awaitConnections.showConnections outcome).connections.status
        versionsLine trace := by
  cases outcome with
  | error failure => rfl
  | ok connections =>
      rw [showConnections_ok, showConnections_ok]
      rfl

/-- A load of the connections reaches their region only. -/
theorem showConnections_awaitConnections (outcome : Outcome (Option Connections)) :
    dashboard.awaitConnections.showConnections outcome =
      { dashboard with
        connections := (dashboard.awaitConnections.showConnections outcome).connections } := by
  cases outcome with
  | error failure => rfl
  | ok connections =>
      rw [showConnections_ok]
      rfl

/-- The result of the versions overwrites the line above them, whatever it is. -/
theorem showVersions_withTransient (outcome : Outcome Json) :
    (dashboard.withTransient connectionsLine versionsLine trace).showVersions outcome =
      (dashboard.awaitVersions.showVersions outcome).withTransient connectionsLine
        (dashboard.awaitVersions.showVersions outcome).versions.status trace := by
  cases outcome <;> rfl

/-- A load of the versions reaches their region only. -/
theorem showVersions_awaitVersions (outcome : Outcome Json) :
    dashboard.awaitVersions.showVersions outcome =
      { dashboard with
        versions := (dashboard.awaitVersions.showVersions outcome).versions } := by
  cases outcome <;> rfl

variable {trace}

/-- The result of a trace overwrites all that was said about the running one. A failed trace keeps
the target and the rows that it finds, so here the trace that runs has to be its own. -/
theorem showTrace_withTransient {target : String} (h : trace.IsRunning target)
    (outcome : Outcome String) :
    (dashboard.withTransient connectionsLine versionsLine trace).showTrace target outcome =
      ((dashboard.awaitTrace target).showTrace target outcome).withTransient connectionsLine
        versionsLine ((dashboard.awaitTrace target).showTrace target outcome).traceroute := by
  obtain ⟨rfl, hrows, huserRun⟩ := h
  cases outcome with
  | ok output => rfl
  | error failure =>
      obtain ⟨target, summary, raw, rows, userRun⟩ := trace
      subst hrows huserRun
      rfl

/-- A trace reaches its region only. -/
theorem showTrace_awaitTrace (target : String) (outcome : Outcome String) :
    (dashboard.awaitTrace target).showTrace target outcome =
      { dashboard with
        traceroute := ((dashboard.awaitTrace target).showTrace target outcome).traceroute } := by
  cases outcome <;> rfl

end Dashboard

end MeshConsole
