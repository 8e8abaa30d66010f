import MeshConsole.Console.Session
import MeshConsole.Proofs.Dashboard.Isolation
import MeshConsole.Proofs.Dashboard.Reached
import MeshConsole.Proofs.Session.History

/-!
# Recording a session

A session is recorded step by step from what the node answers and what the operator asks for; the
dashboard is not looked at:

    step, answers ──record──▶ history
    step, answers ──step────▶ dashboard

What holds of the history and the dashboard together is kept by whole sessions if each update of the
dashboard keeps it. There are three kinds of such relations, each of them kept by more than the one before:

    LoadInvariant       updates of loads                        steps that only load
    SessionInvariant    and sorts, and traces as a whole        sessions that finish no branch late
    OverlapInvariant    and results of traces, found anywhere   all sessions

A branch that is started in one step and finished in a later one is what makes the difference between
the last two: only there a result may find the trace of another branch in its region.
-/

namespace MeshConsole

/-! ## What is recorded -/

/-- The payload that a JSON endpoint delivers, if there is an answer and it is one. -/
def delivered? (α : Type) [Payload α] (answer? : Endpoint → Option Exchange)
    (endpoint : Endpoint) : Option α :=
  (answer? endpoint).bind fun exchange => (exchange.json α).toOption

namespace Endpoint

/-- The event that a request to an endpoint brings. A status that asks for the information of the
second routing protocol needs an answer about that too. -/
def event? (answer? : Endpoint → Option Exchange) : Endpoint → Option Event
  | .status =>
    (delivered? (Option Status) answer? .status).bind fun found =>
      if (found.getD .absent).olsr2On && (answer? .olsr2).isNone then none
      else some (.status (found.getD .absent))
  | .nodedb => (delivered? Directory answer? .nodedb).map .directory
  | .connections =>
    (delivered? (Option Connections) answer? .connections).map fun found =>
      .ports (found.getD .absent).ports
  | .traceroute target =>
    ((answer? (.traceroute target)).bind fun exchange => exchange.text.toOption).map .output
  | _ => none

/-- Records a request to an endpoint. -/
def record (answer? : Endpoint → Option Exchange) (endpoint : Endpoint) (history : History) :
    History :=
  (endpoint.event? answer?).toList ++ history

end Endpoint

/-- Records a trace. Without a target nothing happens. -/
def History.recordTrace (answer? : Endpoint → Option Exchange) (target : String)
    (history : History) : History :=
  if (Text.trim target).isEmpty then history
  else (Endpoint.traceroute (Text.trim target)).record answer? (.began :: history)

/-- Records a branch. -/
def Job.record (answer? : Endpoint → Option Exchange) : Job → History → History
  | .load part, history => part.endpoint.record answer? history
  | .trace target, history => history.recordTrace answer? target

/-- Records a full load. -/
def LoadOrder.record (answer? : Endpoint → Option Exchange) (order : LoadOrder)
    (history : History) : History :=
  if (answer? .capabilities).isSome then
    order.parts.foldl (fun history part => part.endpoint.record answer? history) history
  else history

/-- Records an action. -/
def Action.record (answer? : Endpoint → Option Exchange) (order : LoadOrder) :
    Action → History → History
  | .page _, history => history
  | .document, history => history
  | .refresh, history => order.record answer? history
  | .refreshConnections, history => Endpoint.connections.record answer? history
  | .refreshVersions, history => Endpoint.versions.record answer? history
  | .trace target, history => history.recordTrace answer? target
  | .sort table key, history => .sorted table key :: history

namespace Session

/-- What comes back for a request of a session, if it is answered. -/
def answer? (session : Session) (endpoint : Endpoint) : Option Exchange :=
  (session.console.node.deliver endpoint).exchange?

/-- What comes back for a request of a session that the node does not get. -/
def refusal? (session : Session) (endpoint : Endpoint) : Option Exchange :=
  (session.console.node.deliver endpoint).refusal?

/-- Records a request of the operator. One that is refused does nothing. -/
def recordRequest (session : Session) (order : LoadOrder) (request : Request)
    (history : History) : History :=
  match Action.ofRequest request with
  | .ok action => action.record session.answer? order history
  | .error _ => history

/-- Records the rest of a branch that waits. -/
def recordFinish (session : Session) (name : String) (history : History) : History :=
  match session.waiting.lookup name with
  | some pending => pending.endpoint.record session.answer? history
  | none => history

/-- Records a step of a session. A branch that is only started gets no answer of the node. -/
def record (session : Session) : Step → History → History
  | .rescript _, history => history
  | .loadAll order, history => order.record session.answer? history
  | .run job, history => job.record session.answer? history
  | .sort table key, history => .sorted table key :: history
  | .handle order request, history => session.recordRequest order request history
  | .start _ job, history => job.record session.refusal? history
  | .finish name, history => session.recordFinish name history

/-- The history of a session after further steps. -/
def recordAll (session : Session) : List Step → History → History
  | [], history => history
  | step :: steps, history =>
    (session.step step).2.recordAll steps (session.record step history)

end Session

/-! ## Invariants -/

/-- A payload that some value of the node means. -/
def Payload.IsDecoded {α : Type} [Payload α] (payload : α) : Prop :=
  ∃ value, Payload.ofJson? value = some payload

/-- What a fetch delivers was decoded. -/
theorem Exchange.isDecoded_of_json {α : Type} [Payload α] {exchange : Exchange} {payload : α}
    (h : exchange.json α = .ok payload) : Payload.IsDecoded payload := by
  unfold json at h
  split at h
  · cases h
  · split at h
    · split at h
      · next found hread =>
          obtain rfl := Except.ok.inj h
          obtain ⟨value, -, hvalue⟩ := Option.bind_eq_some_iff.mp hread
          exact ⟨value, hvalue⟩
      · cases h
    · cases h

/-- The event that the result of a trace brings. -/
def Outcome.event? (outcome : Outcome String) : Option Event := outcome.toOption.map .output

/-- Two dashboards have the same tables, the same trace, and the same of what later rows depend on.
-/
structure SameTables (before after : Dashboard) : Prop where
  rows_eq : after.rows = before.rows
  sortKeys_eq : after.sortKeys = before.sortKeys
  directory_eq : after.directory = before.directory
  traceroute_eq : after.traceroute = before.traceroute

/-- A relation between histories and dashboards that every update of a load keeps, recorded with the
event that it brings. Updates that bring no event leave the tables as they are. -/
structure LoadInvariant (R : History → Dashboard → Prop) : Prop where
  quiet : ∀ {history : History} {before after : Dashboard}, R history before →
    SameTables before after → R history after
  status : ∀ {history : History} {dashboard : Dashboard} (thresholds : Thresholds)
    {found : Option Status} (olsr2Info : String), Payload.IsDecoded found → R history dashboard →
    R (.status (found.getD .absent) :: history)
      (dashboard.showStatus thresholds (found.getD .absent) olsr2Info)
  directory : ∀ {history : History} {dashboard : Dashboard} {found : Directory},
    Payload.IsDecoded found → R history dashboard →
    R (.directory found :: history) (dashboard.keepDirectory found)
  ports : ∀ {history : History} {dashboard : Dashboard} {found : Option Connections},
    Payload.IsDecoded found → R history dashboard →
    R (.ports (found.getD .absent).ports :: history) (dashboard.showConnections (.ok found))

/-- A relation that loads keep, and sorts and traces too. Here a trace finds the region as it left it
when it began. -/
structure SessionInvariant (R : History → Dashboard → Prop) : Prop extends LoadInvariant R where
  requested : ∀ {history : History} {dashboard : Dashboard}, R history dashboard →
    R history dashboard.requestTarget
  began : ∀ {history : History} {dashboard : Dashboard} {target : String},
    ¬ (Text.trim target).isEmpty → R history dashboard →
    R (.began :: history) (dashboard.awaitTrace (Text.trim target))
  traced : ∀ {history : History} {dashboard : Dashboard} {target : String}
    (outcome : Outcome String), ¬ (Text.trim target).isEmpty → R history dashboard →
    R (outcome.event?.toList ++ .began :: history)
      ((dashboard.awaitTrace (Text.trim target)).showTrace (Text.trim target) outcome)
  sorted : ∀ {history : History} {dashboard : Dashboard} (id : TableId) (key : String),
    R history dashboard → R (.sorted id key :: history) (dashboard.sort id key)

/-- A relation that the result of a trace keeps whatever it finds. -/
structure OverlapInvariant (R : History → Dashboard → Prop) : Prop extends SessionInvariant R where
  late : ∀ {history : History} {dashboard : Dashboard} (target : String)
    (outcome : Outcome String), R history dashboard →
    R (outcome.event?.toList ++ history) (dashboard.showTrace target outcome)

/-! ### Loads -/

/-- Actions that only load. -/
def Action.isLoad : Action → Bool
  | .refresh => true
  | .refreshConnections => true
  | .refreshVersions => true
  | _ => false

/-- Steps that only load. -/
def Step.isLoad : Step → Bool
  | .loadAll _ => true
  | .run (.load _) => true
  | .start _ (.load _) => true
  | .handle _ request => (Action.ofRequest request).toOption.any Action.isLoad
  | _ => false

/-- A branch that is started leaves what it reaches without the node. -/
theorem Session.dashboard_start (session : Session) (name : String) (branch : Branch) :
    (session.start name branch).2.console.dashboard =
      branch.reached session.refusal? session.console.dashboard := by
  unfold Session.refusal?
  rw [← Branch.dashboard_advance]
  unfold Session.start
  cases branch.advance session.console.node.deliver session.console.dashboard with
  | mk dashboard pending => cases pending <;> rfl

namespace LoadInvariant

variable {R : History → Dashboard → Prop} (hR : LoadInvariant R) {history : History}
  {dashboard : Dashboard} (answer? : Endpoint → Option Exchange)

include hR

/-- The rest of the branch of a part, from the request that it waits for. -/
theorem rest (h : R history dashboard) {thresholds : Thresholds} {part : Part}
    {pending : Pending} (hsuspends : (part.branch thresholds).Suspends pending) :
    R (pending.endpoint.record answer? history)
      ((Branch.ask pending.endpoint pending.next).reached answer? dashboard) := by
  cases part with
  | capabilities =>
      obtain rfl := hsuspends.eq_ask fun fault => ⟨_, Or.inl rfl⟩
      unfold Branch.reached
      cases answer? .capabilities with
      | none => exact h
      | some exchange => exact hR.quiet h ⟨rfl, rfl, rfl, rfl⟩
  | status =>
      obtain rfl := hsuspends.eq_ask fun fault => ⟨_, Or.inl rfl⟩
      unfold Branch.reached Endpoint.record Endpoint.event? delivered?
      dsimp only
      cases answer? .status with
      | none => exact h
      | some exchange =>
          dsimp only [Option.bind_some]
          cases hjson : exchange.json (Option Status) with
          | error failure => exact hR.quiet h ⟨rfl, rfl, rfl, rfl⟩
          | ok found =>
              have hdecoded := Exchange.isDecoded_of_json hjson
              dsimp only [Except.toOption, Option.bind_some]
              cases (found.getD .absent).olsr2On with
              | false => exact hR.status thresholds _ hdecoded h
              | true =>
                  -- Without the information of the second routing protocol nothing is shown.
                  rw [if_pos (rfl : true = true)]
                  unfold Branch.reached
                  cases answer? .olsr2 with
                  | none => exact h
                  | some exchange => exact hR.status thresholds _ hdecoded h
  | directory =>
      obtain rfl := hsuspends.eq_ask fun fault => ⟨id, Or.inr rfl⟩
      unfold Branch.reached Endpoint.record Endpoint.event? delivered?
      dsimp only
      cases answer? .nodedb with
      | none => exact h
      | some exchange =>
          dsimp only [Option.bind_some]
          cases hjson : exchange.json Directory with
          | error failure => exact h
          | ok found => exact hR.directory (Exchange.isDecoded_of_json hjson) h
  | connections =>
      cases hsuspends with
      | write hask =>
          obtain rfl := hask.eq_ask fun fault => ⟨_, Or.inl rfl⟩
          unfold Branch.reached Endpoint.record Endpoint.event? delivered?
          dsimp only
          cases answer? .connections with
          | none => exact h
          | some exchange =>
              dsimp only [Option.bind_some]
              cases hjson : exchange.json (Option Connections) with
              | error failure => exact hR.quiet h ⟨rfl, rfl, rfl, rfl⟩
              | ok found => exact hR.ports (Exchange.isDecoded_of_json hjson) h
  | versions =>
      cases hsuspends with
      | write hask =>
          obtain rfl := hask.eq_ask fun fault => ⟨_, Or.inl rfl⟩
          unfold Branch.reached
          cases answer? .versions with
          | none => exact h
          | some exchange =>
              dsimp only
              show R history (dashboard.showVersions (exchange.json Json))
              cases exchange.json Json <;> exact hR.quiet h ⟨rfl, rfl, rfl, rfl⟩

/-- A part is recorded as the request that it makes. -/
theorem load (h : R history dashboard) (thresholds : Thresholds) (part : Part) :
    R (part.endpoint.record answer? history)
      ((part.branch thresholds).reached answer? dashboard) := by
  cases part with
  | capabilities =>
      have hsuspends : (Part.capabilities.branch thresholds).Suspends _ := .ask
      exact hR.rest answer? h hsuspends
  | status =>
      have hsuspends : (Part.status.branch thresholds).Suspends _ := .ask
      exact hR.rest answer? h hsuspends
  | directory =>
      have hsuspends : (Part.directory.branch thresholds).Suspends _ := .ask
      exact hR.rest answer? h hsuspends
  | connections =>
      have hawaits : R history dashboard.awaitConnections := hR.quiet h ⟨rfl, rfl, rfl, rfl⟩
      have hsuspends : (Part.connections.branch thresholds).Suspends _ := .write .ask
      exact hR.rest answer? hawaits hsuspends
  | versions =>
      have hawaits : R history dashboard.awaitVersions := hR.quiet h ⟨rfl, rfl, rfl, rfl⟩
      have hsuspends : (Part.versions.branch thresholds).Suspends _ := .write .ask
      exact hR.rest answer? hawaits hsuspends

theorem loadParts (h : R history dashboard) (thresholds : Thresholds) (parts : List Part) :
    R (parts.foldl (fun history part => part.endpoint.record answer? history) history)
      (parts.foldl (fun dashboard part => (part.branch thresholds).reached answer? dashboard)
        dashboard) := by
  induction parts generalizing history dashboard with
  | nil => exact h
  | cons part parts ih => exact ih (hR.load answer? h thresholds part)

/-- The parts of a full load are recorded if there is an answer about the capabilities. -/
theorem loadAll (h : R history dashboard) (deliver : Endpoint → Delivery)
    (thresholds : Thresholds) (order : LoadOrder) :
    R (order.record (fun endpoint => (deliver endpoint).exchange?) history)
      (dashboard.loadAll deliver thresholds order).dashboard := by
  rw [Dashboard.dashboard_loadAll]
  unfold LoadOrder.record
  by_cases hanswered : (deliver .capabilities).exchange?.isSome = true
  · rw [if_pos hanswered, if_pos hanswered]
    exact hR.loadParts _ (hR.load _ h thresholds .capabilities) thresholds order.parts
  · rw [if_neg hanswered, if_neg hanswered]
    exact h

variable {session : Session}

theorem runPart (h : R history session.console.dashboard) (part : Part) :
    R (part.endpoint.record session.answer? history)
      (session.console.runBranch (session.branch (.load part))).dashboard := by
  unfold Console.runBranch
  rw [Branch.dashboard_run]
  exact hR.load session.answer? h _ part

theorem step (h : R history session.console.dashboard) {step : Step}
    (hstep : step.isLoad = true) :
    R (session.record step history) (session.step step).2.console.dashboard := by
  cases step with
  | loadAll order => exact hR.loadAll h _ _ order
  | run job =>
      cases job with
      | load part => exact hR.runPart h part
      | trace target => cases hstep
  | handle order request =>
      show R (session.recordRequest order request history)
        (session.console.handle order request).1.dashboard
      unfold Console.handle Session.recordRequest
      have haction : (Action.ofRequest request).toOption.any Action.isLoad = true := hstep
      cases hrequest : Action.ofRequest request with
      | error refusal => exact h
      | ok action =>
          rw [hrequest] at haction
          cases action with
          | refresh => exact hR.loadAll h _ _ order
          | refreshConnections => exact hR.runPart h .connections
          | refreshVersions => exact hR.runPart h .versions
          | _ => cases haction
  | start name job =>
      cases job with
      | load part =>
          show R _ (session.start name _).2.console.dashboard
          rw [Session.dashboard_start]
          exact hR.load session.refusal? h _ part
      | trace target => cases hstep
  | _ => cases hstep

end LoadInvariant

/-! ### Traces and sessions -/

/-- What waits for an answer in a session are branches of jobs. -/
def Session.WaitsForJobs (session : Session) : Prop :=
  ∀ entry ∈ session.waiting, ∃ job, (session.branch job).Suspends entry.2

namespace SessionInvariant

variable {R : History → Dashboard → Prop} (hR : SessionInvariant R) {history : History}

include hR

theorem trace {dashboard : Dashboard} (answer? : Endpoint → Option Exchange)
    (h : R history dashboard) (target : String) :
    R (history.recordTrace answer? target) ((Branch.traceTo target).reached answer? dashboard) := by
  unfold History.recordTrace Branch.traceTo
  dsimp only
  by_cases hblank : (Text.trim target).isEmpty = true
  · rw [if_pos hblank, if_pos hblank]
    exact hR.requested h
  · rw [if_neg hblank, if_neg hblank]
    unfold Branch.reached Branch.reached Endpoint.record Endpoint.event?
    dsimp only
    cases answer? (.traceroute (Text.trim target)) with
    | none => exact hR.began hblank h
    | some exchange => exact hR.traced exchange.text hblank h

/-- A job, as far as it gets with the answers that there are. -/
theorem job {dashboard : Dashboard} (answer? : Endpoint → Option Exchange)
    (h : R history dashboard) (session : Session) (job : Job) :
    R (job.record answer? history) ((session.branch job).reached answer? dashboard) := by
  cases job with
  | load part => exact hR.load answer? h _ part
  | trace target => exact hR.trace answer? h target

variable {session : Session}

theorem runBranch (h : R history session.console.dashboard) (job : Job) :
    R (job.record session.answer? history)
      (session.console.runBranch (session.branch job)).dashboard := by
  unfold Console.runBranch
  rw [Branch.dashboard_run]
  exact hR.job session.answer? h session job

theorem perform (h : R history session.console.dashboard) (order : LoadOrder) (action : Action) :
    R (action.record session.answer? order history)
      (session.console.perform order action).dashboard := by
  cases action with
  | page tab => exact h
  | document => exact h
  | refresh => exact hR.loadAll h _ _ order
  | refreshConnections => exact hR.runPart h .connections
  | refreshVersions => exact hR.runPart h .versions
  | trace target => exact hR.runBranch h (.trace target)
  | sort table key => exact hR.sorted table key h

/-- A request that is refused leaves the dashboard as it is. -/
theorem handle (h : R history session.console.dashboard) (order : LoadOrder)
    (request : Request) :
    R (session.recordRequest order request history)
      (session.console.handle order request).1.dashboard := by
  unfold Console.handle Session.recordRequest
  cases Action.ofRequest request with
  | error refusal => exact h
  | ok action => exact hR.perform h order action

theorem start (h : R history session.console.dashboard) (name : String) (job : Job) :
    R (job.record session.refusal? history)
      (session.start name (session.branch job)).2.console.dashboard := by
  rw [Session.dashboard_start]
  exact hR.job session.refusal? h session job

/-- A step that finishes no branch of an earlier one. -/
theorem step (h : R history session.console.dashboard) {step : Step}
    (hstep : ∀ name, step ≠ .finish name) :
    R (session.record step history) (session.step step).2.console.dashboard := by
  cases step with
  | rescript changes => exact h
  | loadAll order => exact hR.loadAll h _ _ order
  | run job => exact hR.runBranch h job
  | sort table key => exact hR.sorted table key h
  | handle order request => exact hR.handle h order request
  | start name job => exact hR.start h name job
  | finish name => exact absurd rfl (hstep name)

/-- Sessions that finish no branch late keep what their updates keep. -/
theorem steps (h : R history session.console.dashboard) {steps : List Step}
    (hsteps : ∀ name, Step.finish name ∉ steps) :
    R (session.recordAll steps history) (session.steps steps).console.dashboard := by
  induction steps generalizing session history with
  | nil => exact h
  | cons step steps ih =>
      have hstep : ∀ name, step ≠ .finish name :=
        fun name heq => hsteps name (heq ▸ List.mem_cons_self)
      exact ih (hR.step h hstep) fun name hmem => hsteps name (List.mem_cons_of_mem step hmem)

end SessionInvariant

namespace Session.WaitsForJobs

variable {session : Session}

theorem initial (node : Node) (thresholds : Thresholds) :
    (Session.initial node thresholds).WaitsForJobs :=
  fun _ hentry => absurd hentry List.not_mem_nil

theorem step (h : session.WaitsForJobs) (step : Step) : (session.step step).2.WaitsForJobs := by
  cases step with
  | start name job =>
      show (session.start name (session.branch job)).2.WaitsForJobs
      unfold Session.start
      cases hadvance : (session.branch job).advance session.console.node.deliver
        session.console.dashboard with
      | mk dashboard pending =>
          cases pending with
          | none => exact h
          | some pending =>
              intro entry hentry
              rcases List.mem_cons.mp hentry with rfl | hentry
              · exact ⟨job, Branch.suspends_of_advance (congrArg Prod.snd hadvance)⟩
              · exact h entry hentry
  | finish name =>
      show (session.finish name).2.WaitsForJobs
      unfold Session.finish
      cases session.waiting.lookup name with
      | none => exact h
      | some pending => exact fun entry hentry => h entry (List.mem_filter.mp hentry).1
  | _ => exact h

theorem steps (h : session.WaitsForJobs) (steps : List Step) :
    (session.steps steps).WaitsForJobs := by
  induction steps generalizing session with
  | nil => exact h
  | cons step steps ih => exact ih (h.step step)

end Session.WaitsForJobs

namespace OverlapInvariant

variable {R : History → Dashboard → Prop} (hR : OverlapInvariant R) {history : History}
  {session : Session}

include hR

/-- The rest of the branch of a job, from the request that it waits for. -/
theorem rest_job {dashboard : Dashboard} (answer? : Endpoint → Option Exchange)
    (h : R history dashboard) {job : Job} {pending : Pending}
    (hsuspends : (session.branch job).Suspends pending) :
    R (pending.endpoint.record answer? history)
      ((Branch.ask pending.endpoint pending.next).reached answer? dashboard) := by
  cases job with
  | load part =>
      have hpart : (part.branch session.console.thresholds).Suspends pending := hsuspends
      exact hR.rest answer? h hpart
  | trace target =>
      have htrace : (Branch.traceTo target).Suspends pending := hsuspends
      unfold Branch.traceTo at htrace
      dsimp only at htrace
      split at htrace
      · cases htrace with
        | write hdone => cases hdone
      · cases htrace with
        | write hask =>
            obtain rfl := hask.eq_ask fun fault => ⟨_, Or.inl rfl⟩
            unfold Branch.reached Endpoint.record Endpoint.event?
            dsimp only
            cases answer? (.traceroute (Text.trim target)) with
            | none => exact h
            | some exchange => exact hR.late (Text.trim target) exchange.text h

/-- A branch that waits is finished from the request that it waits for. -/
theorem finish (h : R history session.console.dashboard) (hwaits : session.WaitsForJobs)
    (name : String) :
    R (session.recordFinish name history) (session.finish name).2.console.dashboard := by
  unfold Session.finish Session.recordFinish
  cases hlookup : session.waiting.lookup name with
  | none => exact h
  | some pending =>
      obtain ⟨before, after, hwaiting, -⟩ := List.lookup_eq_some_iff.mp hlookup
      obtain ⟨job, hsuspends⟩ := hwaits (name, pending) (by simp [hwaiting])
      show R (pending.endpoint.record session.answer? history)
        (pending.resume session.console.node.deliver session.console.dashboard).dashboard
      rw [Branch.dashboard_resume]
      exact hR.rest_job session.answer? h hsuspends

/-- Sessions keep what their updates keep. -/
theorem steps (h : R history session.console.dashboard) (hwaits : session.WaitsForJobs)
    (steps : List Step) :
    R (session.recordAll steps history) (session.steps steps).console.dashboard := by
  induction steps generalizing session history with
  | nil => exact h
  | cons step steps ih =>
      refine ih ?_ (hwaits.step step)
      by_cases hfinish : ∃ name, step = .finish name
      · obtain ⟨name, rfl⟩ := hfinish
        exact hR.finish h hwaits name
      · exact hR.step h fun name heq => hfinish ⟨name, heq⟩

end OverlapInvariant

end MeshConsole
