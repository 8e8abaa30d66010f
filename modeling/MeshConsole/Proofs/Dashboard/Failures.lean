import MeshConsole.Proofs.Concurrency.Calls
import MeshConsole.Proofs.Console.Verdict

/-!
# Failed loads lose nothing

A load that fails leaves a notice: it says in one line of its region what went wrong. What was shown
and remembered before stays, and no call looks at the notices:

    dashboard ──failed load──▶ agrees but for the notices
        │                          │
        │ later calls              │ the same calls
        ▼                          ▼
    dashboard ──────────────── agrees but for the notices

So a failed load can be taken out of any sequence of calls, and nothing but the notices changes
(`runAll_failed`). Capabilities are the exception: a failed load of them takes back what the node
could do.
-/

namespace MeshConsole

/-! ## Notices -/

/-- The dashboard with its notices, the lines in which loads say that they failed, taken from
another. -/
def Dashboard.withNoticesOf (dashboard other : Dashboard) : Dashboard :=
  { dashboard with
    overview.error := other.overview.error
    connections.status := other.connections.status
    versions.status := other.versions.status }

/-- Two dashboards agree on everything but the notices. -/
def AgreeButNotices (first second : Dashboard) : Prop := second = first.withNoticesOf second

/-! ## Loads that fail -/

/-- An exchange that fails leaves a failure in the place of a payload. -/
theorem Exchange.Fails.json_eq_error {α : Type} [Payload α] {exchange : Exchange}
    (h : exchange.Fails α) : ∃ failure, exchange.json α = .error failure := by
  rcases exchange.json_cases α with ⟨fault, -, hjson⟩ | ⟨answer, -, -, hjson⟩ |
    ⟨answer, -, -, -, hjson⟩ | ⟨answer, payload, rfl, hstatus, hread, -⟩
  · exact ⟨_, hjson⟩
  · exact ⟨_, hjson⟩
  · exact ⟨_, hjson⟩
  · exact absurd h (Exchange.not_fails_of_read? hstatus hread)

namespace Part

/-- The fetch of a part fails. -/
def Fails (answer : Endpoint → Exchange) : Part → Prop
  | capabilities => (answer .capabilities).Fails (Option Capabilities)
  | status => (answer .status).Fails (Option Status)
  | directory => (answer .nodedb).Fails Directory
  | connections => (answer .connections).Fails (Option Connections)
  | versions => (answer .versions).Fails Json

variable (thresholds : Thresholds) {answer : Endpoint → Exchange} {part : Part}

/-- A load that fails changes its notice at most. -/
theorem after_of_fails (hpart : part ≠ .capabilities) (hfails : part.Fails answer)
    (dashboard : Dashboard) :
    AgreeButNotices dashboard (part.after thresholds answer dashboard) := by
  cases part with
  | capabilities => exact absurd rfl hpart
  | status =>
      obtain ⟨failure, hjson⟩ := Exchange.Fails.json_eq_error hfails
      rw [after_status, hjson]
      rfl
  | directory =>
      obtain ⟨failure, hjson⟩ := Exchange.Fails.json_eq_error hfails
      rw [after_directory, hjson]
      rfl
  | connections =>
      obtain ⟨failure, hjson⟩ := Exchange.Fails.json_eq_error hfails
      rw [after_connections, hjson]
      rfl
  | versions =>
      obtain ⟨failure, hjson⟩ := Exchange.Fails.json_eq_error hfails
      rw [after_versions, hjson]
      rfl

end Part

/-! ## Calls that find other notices -/

/-- A call leaves what its branch leaves with the answers of the call. -/
theorem Call.run_eq_after (thresholds : Thresholds) (call : Call) (dashboard : Dashboard) :
    call.run thresholds dashboard =
      (call.operation.branch thresholds).after call.answer dashboard :=
  (Branch.run_of_answers (fun _ => rfl) _ dashboard).1

namespace AgreeButNotices

variable {first second : Dashboard}

theorem part (thresholds : Thresholds) (answer : Endpoint → Exchange) (part : Part)
    (h : AgreeButNotices first second) :
    AgreeButNotices (part.after thresholds answer first)
      (part.after thresholds answer second) := by
  unfold AgreeButNotices at h ⊢
  rw [h]
  cases part with
  | capabilities => rfl
  | status =>
      rw [Part.after_status, Part.after_status]
      cases (answer .status).json (Option Status) with
      | error failure => rfl
      | ok found =>
          dsimp only
          rw [Dashboard.showStatus_eq, Dashboard.showStatus_eq]
          rfl
  | directory =>
      rw [Part.after_directory, Part.after_directory]
      cases (answer .nodedb).json Directory <;> rfl
  | connections =>
      rw [Part.after_connections, Part.after_connections]
      cases (answer .connections).json (Option Connections) with
      | error failure => rfl
      | ok found =>
          rw [Dashboard.showConnections_ok, Dashboard.showConnections_ok]
          rfl
  | versions =>
      rw [Part.after_versions, Part.after_versions]
      cases (answer .versions).json Json <;> rfl

theorem traceTo (answer : Endpoint → Exchange) (target : String)
    (h : AgreeButNotices first second) :
    AgreeButNotices ((Branch.traceTo target).after answer first)
      ((Branch.traceTo target).after answer second) := by
  unfold AgreeButNotices at h ⊢
  rw [h]
  unfold Branch.traceTo
  dsimp only
  split
  · rfl
  · rw [Branch.after_write, Branch.after_write, Branch.after_ask, Branch.after_ask]
    cases (answer (.traceroute (Text.trim target))).text <;> rfl

theorem sort (id : TableId) (key : String) (h : AgreeButNotices first second) :
    AgreeButNotices (first.sort id key) (second.sort id key) := by
  unfold AgreeButNotices at h ⊢
  rw [h]
  cases id <;> rfl

/-- No call looks at the notices. -/
theorem call (thresholds : Thresholds) (call : Call) (h : AgreeButNotices first second) :
    AgreeButNotices (call.run thresholds first) (call.run thresholds second) := by
  rw [call.run_eq_after, call.run_eq_after]
  obtain ⟨operation, answer⟩ := call
  cases operation with
  | load part => exact h.part thresholds answer part
  | trace target => exact h.traceTo answer target
  | sort table key => exact h.sort table key

end AgreeButNotices

/-! ## Sequences of calls -/

/-- The dashboard after calls, one after the other. -/
def Call.runAll (thresholds : Thresholds) (calls : List Call) (dashboard : Dashboard) :
    Dashboard :=
  calls.foldl (fun dashboard call => call.run thresholds dashboard) dashboard

theorem AgreeButNotices.runAll {first second : Dashboard} (thresholds : Thresholds)
    (calls : List Call) (h : AgreeButNotices first second) :
    AgreeButNotices (Call.runAll thresholds calls first)
      (Call.runAll thresholds calls second) := by
  induction calls generalizing first second with
  | nil => exact h
  | cons call calls ih => exact ih (h.call thresholds call)

/-- **Failed loads lose nothing.** Loads of single parts, traces and sorts run one after the other,
from any dashboard, each with answers of its own. Without a load that fails in their midst the same
calls leave the same dashboard, but for the notices. -/
theorem runAll_failed (thresholds : Thresholds) (before after : List Call) (part : Part)
    (answer : Endpoint → Exchange) (hpart : part ≠ .capabilities) (hfails : part.Fails answer)
    (dashboard : Dashboard) :
    AgreeButNotices (Call.runAll thresholds (before ++ after) dashboard)
      (Call.runAll thresholds (before ++ ⟨.load part, answer⟩ :: after) dashboard) := by
  unfold Call.runAll
  rw [List.foldl_append, List.foldl_append, List.foldl_cons]
  apply AgreeButNotices.runAll
  rw [Call.run_eq_after]
  exact part.after_of_fails thresholds hpart hfails _

/-- A load of the connections that gives two ports, the higher number first. -/
def Call.twoPorts : Call :=
  ⟨.load .connections, fun _ => .ok ⟨.ok, "\x7b\"ports\":[[\"10\"],[\"2\"]]\x7d"⟩⟩

/-- A load of the connections that is refused between two other loads says so, and the ports that
were shown before stay. -/
theorem runAll_failed_refused :
    let answer : Endpoint → Exchange := fun _ => .ok ⟨⟨500, by decide⟩, "boom"⟩
    let versions : Call := ⟨.load .versions, fun _ => .ok ⟨.ok, "null"⟩⟩
    let kept := Call.runAll .standard [.twoPorts, versions] .initial
    let left := Call.runAll .standard [.twoPorts, ⟨.load .connections, answer⟩, versions] .initial
    Part.connections ≠ .capabilities ∧
      Part.connections.Fails answer ∧
      AgreeButNotices kept left ∧
      left.connections.rows.map (Table.cellContent 0) = ["10".toList, "2".toList] ∧
      kept.connections.status = "" ∧
      left.connections.status = "HTTP 500 Internal Server Error\nboom" := by
  intro answer versions kept left
  have hpart : Part.connections ≠ .capabilities := by decide
  have hfails : Part.connections.Fails answer := .refused (by decide)
  refine ⟨hpart, hfails, ?_, by decide +kernel, by decide +kernel, by decide +kernel⟩
  exact runAll_failed .standard [.twoPorts] [versions] .connections answer hpart hfails .initial

end MeshConsole
