import Mathlib.Data.List.Basic
import MeshConsole.Proofs.Dashboard.Isolation
import MeshConsole.Proofs.Dashboard.Reached

/-!
# The requests of a load

What a branch asks depends on what came back before, and behind a request that is never answered it
asks nothing more. So with the answers that there are a branch makes a list of requests, and what a
run leaves is read off that list:

    received     those of the requests that are not refused
    finished     all of them are answered
    dashboard    if they are, what the updates leave (`Branch.dashboard_of_finished`)

A request whose answer does not come counts only where the list has it. That is why the information
of the second routing protocol, which is asked for only on the word of a status, may be missing
without harm.
-/

namespace MeshConsole

/-- What comes back for a request. One that is never answered counts as lost. -/
def Delivery.exchange (delivery : Delivery) : Exchange :=
  delivery.exchange?.getD (.error ⟨.unsent, ""⟩)

theorem Delivery.exchange_eq {delivery : Delivery} {exchange : Exchange}
    (h : delivery.exchange? = some exchange) : delivery.exchange = exchange := by
  rw [Delivery.exchange, h, Option.getD_some]

namespace Branch

/-- The requests that a branch makes, in order, with the answers that there are. -/
def requests (answer? : Endpoint → Option Exchange) : Branch → List Endpoint
  | done => []
  | write _ next => next.requests answer?
  | ask endpoint next =>
    endpoint ::
      match answer? endpoint with
      | some exchange => (next exchange).requests answer?
      | none => []

@[simp] theorem requests_done (answer? : Endpoint → Option Exchange) :
    done.requests answer? = [] := rfl

@[simp] theorem requests_write (answer? : Endpoint → Option Exchange)
    (update : Dashboard → Dashboard) (next : Branch) :
    (write update next).requests answer? = next.requests answer? := rfl

@[simp] theorem mem_requests_ask {answer? : Endpoint → Option Exchange} {endpoint asked : Endpoint}
    {next : Exchange → Branch} :
    asked ∈ (ask endpoint next).requests answer? ↔
      asked = endpoint ∨ ∃ exchange, answer? endpoint = some exchange ∧
        asked ∈ (next exchange).requests answer? := by
  rw [requests, List.mem_cons]
  cases answer? endpoint <;> simp

/-! ## Runs of branches -/

section

variable (deliver : Endpoint → Delivery)

/-- A run is complete if every request is answered. -/
theorem finished_run (branch : Branch) (dashboard : Dashboard) :
    (branch.run deliver dashboard).finished =
      (branch.requests fun asked => (deliver asked).exchange?).all fun asked =>
        (deliver asked).exchange?.isSome := by
  induction branch generalizing dashboard with
  | done => rfl
  | write update next ih => exact ih (update dashboard)
  | ask endpoint next ih =>
      rw [run, requests, List.all_cons]
      cases deliver endpoint with
      | undelivered fault => exact (ih (.error fault) dashboard).trans (Bool.true_and _).symm
      | delivered exchange => exact (ih exchange dashboard).trans (Bool.true_and _).symm
      | silent => rfl

/-- The node receives what is not refused before. -/
theorem received_run (branch : Branch) (dashboard : Dashboard) :
    (branch.run deliver dashboard).received =
      (branch.requests fun asked => (deliver asked).exchange?).filter fun asked =>
        (deliver asked).refusal?.isNone := by
  induction branch generalizing dashboard with
  | done => rfl
  | write update next ih => exact ih (update dashboard)
  | ask endpoint next ih =>
      rw [run, requests, List.filter_cons]
      cases deliver endpoint with
      | undelivered fault => exact ih (.error fault) dashboard
      | delivered exchange => exact congrArg (endpoint :: ·) (ih exchange dashboard)
      | silent => rfl

theorem finished_runAll (branches : List Branch) (dashboard : Dashboard) :
    (runAll deliver branches dashboard).finished =
      (branches.flatMap (requests fun asked => (deliver asked).exchange?)).all fun asked =>
        (deliver asked).exchange?.isSome := by
  induction branches generalizing dashboard with
  | nil => rfl
  | cons branch branches ih =>
      rw [runAll, List.flatMap_cons, List.all_append, ← ih, ← finished_run deliver branch dashboard]

theorem received_runAll (branches : List Branch) (dashboard : Dashboard) :
    (runAll deliver branches dashboard).received =
      (branches.flatMap (requests fun asked => (deliver asked).exchange?)).filter fun asked =>
        (deliver asked).refusal?.isNone := by
  induction branches generalizing dashboard with
  | nil => rfl
  | cons branch branches ih =>
      rw [runAll, List.flatMap_cons, List.filter_append, ← ih,
        ← received_run deliver branch dashboard]

end

/-- A branch whose requests are all answered reaches what its updates leave. Of endpoints that it
does not ask nothing is said. -/
theorem reached_eq_after {answer? : Endpoint → Option Exchange} {answer : Endpoint → Exchange}
    {branch : Branch}
    (h : ∀ asked ∈ branch.requests answer?, answer? asked = some (answer asked))
    (dashboard : Dashboard) :
    branch.reached answer? dashboard = branch.after answer dashboard := by
  induction branch generalizing dashboard with
  | done => rfl
  | write update next ih => exact ih h (update dashboard)
  | ask endpoint next ih =>
      rw [requests] at h
      have hanswer : answer? endpoint = some (answer endpoint) := h endpoint List.mem_cons_self
      rw [hanswer] at h
      rw [reached, hanswer, after_ask]
      exact ih (answer endpoint) (fun asked hasked => h asked (List.mem_cons_of_mem _ hasked))
        dashboard

/-- A branch that came to its end left what its updates leave. -/
theorem dashboard_of_finished {deliver : Endpoint → Delivery} {branch : Branch}
    {dashboard : Dashboard} (h : (branch.run deliver dashboard).finished = true) :
    (branch.run deliver dashboard).dashboard =
      branch.after (fun asked => (deliver asked).exchange) dashboard := by
  rw [finished_run, List.all_eq_true] at h
  rw [dashboard_run]
  apply reached_eq_after
  intro asked hasked
  obtain ⟨exchange, hexchange⟩ := Option.isSome_iff_exists.mp (h asked hasked)
  rw [hexchange, Delivery.exchange_eq hexchange]

end Branch

/-! ## Parts of a load -/

/-- A part asks its own endpoint, and the status asks for the second routing protocol if there is a
status that says that it is on. -/
theorem Part.mem_requests {thresholds : Thresholds} {answer? : Endpoint → Option Exchange}
    {part : Part} {asked : Endpoint} :
    asked ∈ (part.branch thresholds).requests answer? ↔
      asked = part.endpoint ∨ part = .status ∧ asked = .olsr2 ∧ ∃ exchange found,
        answer? .status = some exchange ∧ exchange.json (Option Status) = .ok found ∧
          (found.getD .absent).olsr2On = true := by
  cases part with
  | status =>
      show asked ∈ (Branch.loadStatus thresholds).requests answer? ↔ _
      rw [Branch.loadStatus, Branch.mem_requests_ask]
      refine or_congr Iff.rfl ?_
      cases answer? .status with
      | none => simp
      | some exchange =>
          cases hjson : exchange.json (Option Status) with
          | error failure => simp [hjson]
          | ok found => cases hon : (found.getD .absent).olsr2On <;> simp [hjson, hon]
  | directory =>
      show asked ∈ Branch.loadDirectory.requests answer? ↔ _
      rw [Branch.loadDirectory, Branch.mem_requests_ask]
      cases answer? .nodedb with
      | none => simp [Part.endpoint]
      | some exchange => cases hjson : exchange.json Directory <;> simp [hjson, Part.endpoint]
  | capabilities => simp [Part.branch, Branch.loadCapabilities, Part.endpoint]
  | connections => simp [Part.branch, Branch.loadConnections, Part.endpoint]
  | versions => simp [Part.branch, Branch.loadVersions, Part.endpoint]

/-! ## The full load -/

/-- The requests of a full load: those of its parts, if there is an answer about the capabilities,
which are asked for first. -/
def LoadOrder.requests (thresholds : Thresholds) (answer? : Endpoint → Option Exchange)
    (order : LoadOrder) : List Endpoint :=
  .capabilities ::
    match answer? .capabilities with
    | some _ => order.parts.flatMap fun part => (part.branch thresholds).requests answer?
    | none => []

theorem LoadOrder.mem_requests {thresholds : Thresholds} {answer? : Endpoint → Option Exchange}
    {order : LoadOrder} {asked : Endpoint} :
    asked ∈ order.requests thresholds answer? ↔
      asked = .capabilities ∨ (answer? .capabilities).isSome ∧ ∃ part : Part, part ≠ .capabilities ∧
        asked ∈ (part.branch thresholds).requests answer? := by
  rw [requests, List.mem_cons]
  cases answer? .capabilities <;> simp [mem_parts]

namespace Dashboard

variable (deliver : Endpoint → Delivery) (thresholds : Thresholds) (order : LoadOrder)
  (dashboard : Dashboard)

theorem finished_loadAll :
    (dashboard.loadAll deliver thresholds order).finished =
      (order.requests thresholds fun asked => (deliver asked).exchange?).all fun asked =>
        (deliver asked).exchange?.isSome := by
  have hparts := Branch.finished_runAll deliver (order.parts.map (Part.branch thresholds))
  rw [loadAll, LoadOrder.requests, List.all_cons]
  cases h : deliver .capabilities with
  | silent => simp [Branch.loadCapabilities, Branch.run, h, Delivery.exchange?]
  | _ => simp [Branch.loadCapabilities, Branch.run, h, Delivery.exchange?, hparts, List.flatMap_map]

theorem received_loadAll :
    (dashboard.loadAll deliver thresholds order).received =
      (order.requests thresholds fun asked => (deliver asked).exchange?).filter fun asked =>
        (deliver asked).refusal?.isNone := by
  have hparts := Branch.received_runAll deliver (order.parts.map (Part.branch thresholds))
  rw [loadAll, LoadOrder.requests, List.filter_cons]
  cases h : deliver .capabilities <;>
    simp [Branch.loadCapabilities, Branch.run, h, Delivery.exchange?, Delivery.refusal?, hparts,
      List.flatMap_map]

variable {deliver thresholds order}

/-- A full load whose requests are all answered loads its parts one after the other, behind the
capabilities. -/
theorem loadAll_of_requests {answer : Endpoint → Exchange}
    (h : ∀ asked ∈ order.requests thresholds fun asked => (deliver asked).exchange?,
      (deliver asked).exchange? = some (answer asked)) :
    (dashboard.loadAll deliver thresholds order).dashboard =
      order.parts.foldl (fun dashboard part => part.after thresholds answer dashboard)
        (Part.capabilities.after thresholds answer dashboard) := by
  have hcapabilities : (deliver .capabilities).exchange? = some (answer .capabilities) :=
    h .capabilities List.mem_cons_self
  have hparts : ∀ part ∈ order.parts, ∀ asked ∈ (part.branch thresholds).requests
      fun asked => (deliver asked).exchange?,
      (deliver asked).exchange? = some (answer asked) := by
    intro part hpart asked hasked
    apply h
    rw [LoadOrder.requests, hcapabilities]
    exact List.mem_cons_of_mem _ (List.mem_flatMap.mpr ⟨part, hpart, hasked⟩)
  have hfirst : Branch.loadCapabilities.reached (fun asked => (deliver asked).exchange?) dashboard =
      Part.capabilities.after thresholds answer dashboard := by
    rw [Branch.loadCapabilities, Branch.reached, hcapabilities]
    rfl
  rw [dashboard_loadAll, hcapabilities, Option.isSome_some, if_pos rfl, hfirst]
  exact List.foldl_ext _ _ _ fun dashboard part hpart =>
    Branch.reached_eq_after (hparts part hpart) dashboard

end Dashboard

end MeshConsole
