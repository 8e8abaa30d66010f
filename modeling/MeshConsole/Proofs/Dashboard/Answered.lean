import MeshConsole.Dashboard.Load

/-!
# Runs in which every request is answered

When no request hangs, a run is determined by what comes back for each request, and all that a
branch does to the dashboard is its list of updates, one after the other:

    deliver ──Answers──▶ answer ──updates──▶ updates ──foldl──▶ the dashboard afterwards

So a load comes down to a chain of updates, and later modules reason about that chain.
-/

namespace MeshConsole

/-- Every request is answered or fails, and `answer` is what comes of each. -/
def Answers (deliver : Endpoint → Delivery) (answer : Endpoint → Exchange) : Prop :=
  ∀ endpoint, (deliver endpoint).exchange? = some (answer endpoint)

/-! ## Branches -/

namespace Branch

/-- The dashboard after a branch whose requests are answered as given. -/
def after (answer : Endpoint → Exchange) (branch : Branch) (dashboard : Dashboard) : Dashboard :=
  (branch.updates answer).foldl (fun dashboard update => update dashboard) dashboard

variable {deliver : Endpoint → Delivery} {answer : Endpoint → Exchange}

@[simp] theorem after_done (dashboard : Dashboard) :
    done.after answer dashboard = dashboard := rfl

@[simp] theorem after_write (update : Dashboard → Dashboard) (next : Branch)
    (dashboard : Dashboard) :
    (write update next).after answer dashboard = next.after answer (update dashboard) := rfl

@[simp] theorem after_ask (endpoint : Endpoint) (next : Exchange → Branch)
    (dashboard : Dashboard) :
    (ask endpoint next).after answer dashboard =
      (next (answer endpoint)).after answer dashboard := rfl

/-- A branch whose requests are all answered comes to its end, and leaves what its updates leave. -/
theorem run_of_answers (h : Answers deliver answer) (branch : Branch) (dashboard : Dashboard) :
    (branch.run deliver dashboard).dashboard = branch.after answer dashboard ∧
      (branch.run deliver dashboard).finished = true := by
  -- The writes before a request change the dashboard that the rest of the branch starts from.
  induction branch generalizing dashboard with
  | done => exact ⟨rfl, rfl⟩
  | write update next ih => exact ih (update dashboard)
  | ask endpoint next ih =>
      have hanswer := h endpoint
      rw [run, after_ask]
      cases hdeliver : deliver endpoint with
      | undelivered fault =>
          rw [hdeliver] at hanswer
          have heq : answer endpoint = .error fault := (Option.some.inj hanswer).symm
          rw [heq]
          exact ih (.error fault) dashboard
      | delivered exchange =>
          rw [hdeliver] at hanswer
          have heq : answer endpoint = exchange := (Option.some.inj hanswer).symm
          rw [heq]
          exact ih exchange dashboard
      | silent =>
          rw [hdeliver] at hanswer
          cases hanswer

/-- Branches that run one after the other leave what their updates leave. -/
theorem runAll_of_answers (h : Answers deliver answer) (branches : List Branch)
    (dashboard : Dashboard) :
    (runAll deliver branches dashboard).dashboard =
        branches.foldl (fun dashboard branch => branch.after answer dashboard) dashboard ∧
      (runAll deliver branches dashboard).finished = true := by
  induction branches generalizing dashboard with
  | nil => exact ⟨rfl, rfl⟩
  | cons branch branches ih =>
      obtain ⟨hfirst, hfinished⟩ := run_of_answers h branch dashboard
      obtain ⟨hrest, hrestFinished⟩ := ih (branch.after answer dashboard)
      rw [runAll]
      dsimp only
      rw [hfirst, hfinished, hrestFinished]
      exact ⟨hrest, rfl⟩

end Branch

/-! ## Parts of a load -/

namespace Part

/-- The dashboard after a part was loaded. -/
def after (thresholds : Thresholds) (answer : Endpoint → Exchange) (part : Part)
    (dashboard : Dashboard) : Dashboard :=
  (part.branch thresholds).after answer dashboard

variable (thresholds : Thresholds) (answer : Endpoint → Exchange) (dashboard : Dashboard)

theorem after_capabilities :
    Part.capabilities.after thresholds answer dashboard =
      dashboard.showCapabilities ((answer .capabilities).json (Option Capabilities)) := rfl

/-- The information of the second routing protocol as it is shown with a status. -/
def olsr2Info (answer : Endpoint → Exchange) (status : Status) : String :=
  if status.olsr2On then Outcome.shown (answer .olsr2).text else ""

theorem after_status :
    Part.status.after thresholds answer dashboard =
      match (answer .status).json (Option Status) with
      | .error failure => dashboard.failStatus failure
      | .ok found =>
        dashboard.showStatus thresholds (found.getD .absent)
          (olsr2Info answer (found.getD .absent)) := by
  unfold after branch Branch.loadStatus
  rw [Branch.after_ask]
  cases (answer .status).json (Option Status) with
  | error failure => rfl
  | ok found =>
      unfold olsr2Info
      dsimp only
      split <;> rfl

theorem after_directory :
    Part.directory.after thresholds answer dashboard =
      match (answer .nodedb).json Directory with
      | .ok found => dashboard.keepDirectory found
      | .error _ => dashboard := by
  unfold after branch Branch.loadDirectory
  rw [Branch.after_ask]
  cases (answer .nodedb).json Directory with
  | error failure => rfl
  | ok found => rfl

theorem after_connections :
    Part.connections.after thresholds answer dashboard =
      dashboard.awaitConnections.showConnections
        ((answer .connections).json (Option Connections)) := rfl

theorem after_versions :
    Part.versions.after thresholds answer dashboard =
      dashboard.awaitVersions.showVersions ((answer .versions).json Json) := rfl

end Part

/-! ## The full load -/

theorem LoadOrder.mem_parts {order : LoadOrder} {part : Part} :
    part ∈ order.parts ↔ part ≠ .capabilities := by
  cases order <;> cases part <;> decide

/-- A full load whose requests are all answered comes to its end; the capabilities come first and
the other parts follow in the order in which they are complete. -/
theorem Dashboard.loadAll_of_answers {deliver : Endpoint → Delivery}
    {answer : Endpoint → Exchange} (h : Answers deliver answer) (thresholds : Thresholds)
    (order : LoadOrder) (dashboard : Dashboard) :
    (dashboard.loadAll deliver thresholds order).dashboard =
        order.parts.foldl (fun dashboard part => part.after thresholds answer dashboard)
          (Part.capabilities.after thresholds answer dashboard) ∧
      (dashboard.loadAll deliver thresholds order).finished = true := by
  obtain ⟨hfirst, hfinished⟩ := Branch.run_of_answers h .loadCapabilities dashboard
  obtain ⟨hrest, hrestFinished⟩ :=
    Branch.runAll_of_answers h (order.parts.map (Part.branch thresholds))
      (Branch.loadCapabilities.after answer dashboard)
  unfold loadAll
  dsimp only
  rw [if_pos hfinished, hfirst]
  refine ⟨?_, hrestFinished⟩
  rw [hrest, List.foldl_map]
  rfl

/-! ## Scripted nodes -/

theorem Reply.exchange?_delivery {reply : Reply} (h : reply ≠ .hang) (url : String) :
    ((reply.delivery url).exchange?).isSome = true := by
  cases reply with
  | answer status body => rfl
  | close => rfl
  | cutOff => rfl
  | hang => exact absurd rfl h

/-- A node none of whose replies hangs answers every request. -/
theorem Node.exists_answers (node : Node) (h : ∀ endpoint, node.script.reply endpoint ≠ .hang) :
    ∃ answer, Answers node.deliver answer := by
  have hsome : ∀ endpoint, ((node.deliver endpoint).exchange?).isSome = true := by
    intro endpoint
    unfold deliver
    dsimp only
    split
    · exact Reply.exchange?_delivery (h endpoint) _
    · split <;> rfl
  exact ⟨fun endpoint => ((node.deliver endpoint).exchange?).get (hsome endpoint),
    fun endpoint => (Option.some_get (hsome endpoint)).symm⟩

end MeshConsole
