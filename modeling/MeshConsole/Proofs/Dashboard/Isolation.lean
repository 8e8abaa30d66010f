import MeshConsole.Proofs.Dashboard.Answered
import MeshConsole.Proofs.Dashboard.Regions

/-!
# What one answer of the node can reach

Two full loads from the same dashboard, whose nodes differ in their replies at one endpoint only,
leave dashboards that differ at most in a few fields, whatever the two replies are:

    capabilities ──▶ the capabilities
    status       ──▶ overview, warning, devices, links, neighbors, trace
    olsr2        ──▶ one text of the overview
    nodedb       ──▶ the directory, the rows of the connections
    connections  ──▶ the connections
    versions     ──▶ the versions
    traceroute   ──▶ nothing

`AgreeBeyond` is the relation that says so. A part of a load keeps it as long as both runs get the
same answers (`Part.after_agreeBeyond_of_same`), and the part that asks the endpoint in question
writes to the fields of that endpoint only (`Part.after_confined`). The one part that asks two
endpoints is the status.
-/

namespace MeshConsole

/-! ## The reach of an endpoint -/

/-- The dashboard with the fields that an answer of the endpoint may reach taken from another. -/
def Dashboard.withReachOf (dashboard : Dashboard) (endpoint : Endpoint) (other : Dashboard) :
    Dashboard :=
  match endpoint with
  | .capabilities => { dashboard with capabilities := other.capabilities }
  | .status =>
    { dashboard with
      overview := other.overview
      frequencyWarning := other.frequencyWarning
      devices := other.devices
      links := other.links
      neighbors := other.neighbors
      traceroute := other.traceroute }
  | .olsr2 => { dashboard with overview.olsr2Info := other.overview.olsr2Info }
  | .nodedb =>
    { dashboard with
      directory := other.directory
      connections.rows := other.connections.rows }
  | .connections => { dashboard with connections := other.connections }
  | .versions => { dashboard with versions := other.versions }
  | .traceroute _ => dashboard

/-- Two dashboards agree on every field that an answer of the endpoint cannot reach. -/
def AgreeBeyond (endpoint : Endpoint) (first second : Dashboard) : Prop :=
  second = first.withReachOf endpoint second

namespace AgreeBeyond

variable {endpoint : Endpoint} {first second third : Dashboard}

theorem refl (endpoint : Endpoint) (dashboard : Dashboard) :
    AgreeBeyond endpoint dashboard dashboard := by
  cases endpoint <;> rfl

theorem symm (h : AgreeBeyond endpoint first second) : AgreeBeyond endpoint second first := by
  unfold AgreeBeyond at h ⊢
  rw [h]
  cases endpoint <;> rfl

theorem trans (h : AgreeBeyond endpoint first second) (h' : AgreeBeyond endpoint second third) :
    AgreeBeyond endpoint first third := by
  unfold AgreeBeyond at h h' ⊢
  rw [h', h]
  cases endpoint <;> rfl

/-! ### Updates that are the same in both runs -/

theorem showCapabilities (outcome : Outcome (Option Capabilities))
    (h : AgreeBeyond endpoint first second) :
    AgreeBeyond endpoint (first.showCapabilities outcome) (second.showCapabilities outcome) := by
  unfold AgreeBeyond at h ⊢
  rw [h]
  cases endpoint <;> rfl

theorem failStatus (failure : Failure) (h : AgreeBeyond endpoint first second) :
    AgreeBeyond endpoint (first.failStatus failure) (second.failStatus failure) := by
  unfold AgreeBeyond at h ⊢
  rw [h]
  cases endpoint <;> rfl

/-- A status reads the sort keys, which no answer reaches, and whether the operator has run a trace,
which stands in a region of its own. -/
theorem showStatus (thresholds : Thresholds) (status : Status) (olsr2Info : String)
    (h : AgreeBeyond endpoint first second) :
    AgreeBeyond endpoint (first.showStatus thresholds status olsr2Info)
      (second.showStatus thresholds status olsr2Info) := by
  rw [Dashboard.showStatus_eq, Dashboard.showStatus_eq]
  unfold AgreeBeyond at h ⊢
  rw [h]
  cases endpoint <;> rfl

theorem keepDirectory (directory : Directory) (h : AgreeBeyond endpoint first second) :
    AgreeBeyond endpoint (first.keepDirectory directory) (second.keepDirectory directory) := by
  unfold AgreeBeyond at h ⊢
  rw [h]
  cases endpoint <;> rfl

theorem awaitConnections (h : AgreeBeyond endpoint first second) :
    AgreeBeyond endpoint first.awaitConnections second.awaitConnections := by
  unfold AgreeBeyond at h ⊢
  rw [h]
  cases endpoint <;> rfl

/-- Connections read the directory; that is why the rows of the connections are in the reach of
`nodedb`. -/
theorem showConnections (outcome : Outcome (Option Connections))
    (h : AgreeBeyond endpoint first second) :
    AgreeBeyond endpoint (first.showConnections outcome) (second.showConnections outcome) := by
  cases outcome with
  | ok connections =>
      rw [Dashboard.showConnections_ok, Dashboard.showConnections_ok]
      unfold AgreeBeyond at h ⊢
      rw [h]
      cases endpoint <;> rfl
  | error failure =>
      unfold AgreeBeyond at h ⊢
      rw [h]
      cases endpoint <;> rfl

theorem awaitVersions (h : AgreeBeyond endpoint first second) :
    AgreeBeyond endpoint first.awaitVersions second.awaitVersions := by
  unfold AgreeBeyond at h ⊢
  rw [h]
  cases endpoint <;> rfl

theorem showVersions (outcome : Outcome Json) (h : AgreeBeyond endpoint first second) :
    AgreeBeyond endpoint (first.showVersions outcome) (second.showVersions outcome) := by
  unfold AgreeBeyond at h ⊢
  rw [h]
  cases outcome <;> cases endpoint <;> rfl

end AgreeBeyond

/-! ## Parts of a load -/

namespace Part

/-- The endpoint that a part asks first. -/
def endpoint : Part → Endpoint
  | capabilities => .capabilities
  | status => .status
  | directory => .nodedb
  | connections => .connections
  | versions => .versions

/-- All endpoints that a part may ask. -/
def endpoints : Part → List Endpoint
  | status => [.status, .olsr2]
  | part => [part.endpoint]

theorem mem_endpoints {part : Part} {asked : Endpoint} :
    asked ∈ part.endpoints ↔ asked = part.endpoint ∨ part = status ∧ asked = .olsr2 := by
  cases part <;> simp [endpoints, endpoint]

/-- An endpoint that a part asks is known by its name. -/
theorem eq_of_name_eq {part : Part} {asked other : Endpoint} (hasked : asked ∈ part.endpoints)
    (hname : asked.name = other.name) : asked = other := by
  -- Only traces to different targets share a name, and no part asks for a trace.
  rcases mem_endpoints.mp hasked with rfl | ⟨-, rfl⟩
  · cases part <;> cases other <;> simp [endpoint, Endpoint.name] at hname ⊢
  · cases other <;> simp [Endpoint.name] at hname ⊢

variable (thresholds : Thresholds) {answer answer' : Endpoint → Exchange}

/-- A part writes to the fields in the reach of its endpoint only. -/
theorem after_confined (answer : Endpoint → Exchange) (part : Part) (dashboard : Dashboard) :
    AgreeBeyond part.endpoint dashboard (part.after thresholds answer dashboard) := by
  cases part with
  | capabilities => rfl
  | status =>
      rw [after_status]
      split
      · rfl
      · rw [Dashboard.showStatus_eq]
        rfl
  | directory =>
      rw [after_directory]
      split <;> rfl
  | connections =>
      rw [after_connections]
      cases (answer .connections).json (Option Connections) with
      | ok found =>
          rw [Dashboard.showConnections_ok]
          rfl
      | error failure => rfl
  | versions =>
      rw [after_versions]
      cases (answer .versions).json Json <;> rfl

/-- No part of a load changes the sort keys. -/
@[simp] theorem sortKeys_after (answer : Endpoint → Exchange) (part : Part)
    (dashboard : Dashboard) :
    (part.after thresholds answer dashboard).sortKeys = dashboard.sortKeys := by
  rw [after_confined thresholds answer part dashboard]
  cases part <;> rfl

/-- A part that gets the same answers in both runs keeps the agreement. -/
theorem after_agreeBeyond_of_same {changed : Endpoint} {first second : Dashboard} (part : Part)
    (h : AgreeBeyond changed first second) :
    AgreeBeyond changed (part.after thresholds answer first)
      (part.after thresholds answer second) := by
  cases part with
  | capabilities => exact h.showCapabilities _
  | status =>
      rw [after_status, after_status]
      split
      · exact h.failStatus _
      · exact h.showStatus _ _ _
  | directory =>
      rw [after_directory, after_directory]
      split
      · exact h.keepDirectory _
      · exact h
  | connections => exact h.awaitConnections.showConnections _
  | versions => exact h.awaitVersions.showVersions _

/-- What a part leaves depends on the answers to its own requests only. -/
theorem after_congr {part : Part}
    (h : ∀ endpoint ∈ part.endpoints, answer endpoint = answer' endpoint)
    (dashboard : Dashboard) :
    part.after thresholds answer dashboard = part.after thresholds answer' dashboard := by
  cases part with
  | capabilities => rw [after_capabilities, after_capabilities, h .capabilities (by decide)]
  | status =>
      rw [after_status, after_status, h .status (by decide)]
      unfold olsr2Info
      rw [h .olsr2 (by decide)]
  | directory => rw [after_directory, after_directory, h .nodedb (by decide)]
  | connections => rw [after_connections, after_connections, h .connections (by decide)]
  | versions => rw [after_versions, after_versions, h .versions (by decide)]

/-- The answer of `olsr2` is shown with a status or not at all, and reaches one text there. -/
theorem after_status_agreeBeyond_olsr2 (h : answer .status = answer' .status)
    (dashboard : Dashboard) :
    AgreeBeyond .olsr2 (Part.status.after thresholds answer dashboard)
      (Part.status.after thresholds answer' dashboard) := by
  rw [after_status, after_status, ← h]
  cases (answer .status).json (Option Status) with
  | error failure => exact .refl _ _
  | ok found =>
      dsimp only
      rw [Dashboard.showStatus_eq, Dashboard.showStatus_eq]
      rfl

/-- From one dashboard, with answers that differ at one endpoint, a part leaves dashboards that
agree beyond the reach of that endpoint. -/
theorem after_agreeBeyond_of_changed {changed : Endpoint}
    (hsame : ∀ endpoint : Endpoint, endpoint.name ≠ changed.name →
      answer endpoint = answer' endpoint)
    (part : Part) (dashboard : Dashboard) :
    AgreeBeyond changed (part.after thresholds answer dashboard)
      (part.after thresholds answer' dashboard) := by
  by_cases hasks : changed ∈ part.endpoints
  · rcases mem_endpoints.mp hasks with rfl | ⟨rfl, rfl⟩
    · exact (after_confined thresholds answer part dashboard).symm.trans
        (after_confined thresholds answer' part dashboard)
    · exact after_status_agreeBeyond_olsr2 thresholds (hsame .status (by decide)) dashboard
  · -- The part does not ask the endpoint, so it gets the same answers in both runs.
    have heq : part.after thresholds answer dashboard =
        part.after thresholds answer' dashboard := by
      apply after_congr
      intro asked hasked
      apply hsame
      intro hname
      exact hasks (eq_of_name_eq hasked hname ▸ hasked)
    rw [heq]
    exact .refl _ _

/-- A part keeps the agreement of two runs whose answers differ at one endpoint. -/
theorem after_agreeBeyond {changed : Endpoint} {first second : Dashboard}
    (hsame : ∀ endpoint : Endpoint, endpoint.name ≠ changed.name →
      answer endpoint = answer' endpoint)
    (part : Part) (h : AgreeBeyond changed first second) :
    AgreeBeyond changed (part.after thresholds answer first)
      (part.after thresholds answer' second) :=
  (after_agreeBeyond_of_same thresholds part h).trans
    (after_agreeBeyond_of_changed thresholds hsame part second)

end Part

/-! ## The full load -/

/-- Parts that are loaded one after the other keep the agreement. -/
theorem agreeBeyond_foldl_parts (thresholds : Thresholds) {answer answer' : Endpoint → Exchange}
    {changed : Endpoint}
    (hsame : ∀ endpoint : Endpoint, endpoint.name ≠ changed.name →
      answer endpoint = answer' endpoint)
    (parts : List Part) {first second : Dashboard} (h : AgreeBeyond changed first second) :
    AgreeBeyond changed
      (parts.foldl (fun dashboard part => part.after thresholds answer dashboard) first)
      (parts.foldl (fun dashboard part => part.after thresholds answer' dashboard) second) := by
  induction parts generalizing first second with
  | nil => exact h
  | cons part parts ih => exact ih (part.after_agreeBeyond thresholds hsame h)

theorem sortKeys_foldl_parts (thresholds : Thresholds) (answer : Endpoint → Exchange)
    (parts : List Part) (dashboard : Dashboard) :
    (parts.foldl (fun dashboard part => part.after thresholds answer dashboard)
      dashboard).sortKeys = dashboard.sortKeys := by
  induction parts generalizing dashboard with
  | nil => rfl
  | cons part parts ih => rw [List.foldl_cons, ih, Part.sortKeys_after]

/-- The node with another script. -/
def Node.withScript (node : Node) (script : Script) : Node := { node with script := script }

/-- **Isolation of endpoints.** Two scripts without a hanging reply that differ in their reply at one
endpoint only: both full loads come to their end, what they leave agrees beyond the reach of that
endpoint, and neither changes the sort keys. -/
theorem loadAll_agreeBeyond (node : Node) (thresholds : Thresholds) (order : LoadOrder)
    (dashboard : Dashboard) (endpoint : Endpoint) (script script' : Script)
    (hanswered : ∀ asked, script.reply asked ≠ .hang)
    (hanswered' : ∀ asked, script'.reply asked ≠ .hang)
    (hsame : ∀ asked : Endpoint, asked.name ≠ endpoint.name →
      script.reply asked = script'.reply asked) :
    let run := dashboard.loadAll (node.withScript script).deliver thresholds order
    let run' := dashboard.loadAll (node.withScript script').deliver thresholds order
    (run.finished = true ∧ run'.finished = true) ∧
      AgreeBeyond endpoint run.dashboard run'.dashboard ∧
      run.dashboard.sortKeys = dashboard.sortKeys ∧
      run'.dashboard.sortKeys = dashboard.sortKeys := by
  obtain ⟨answer, hanswer⟩ := Node.exists_answers (node.withScript script) hanswered
  obtain ⟨answer', hanswer'⟩ := Node.exists_answers (node.withScript script') hanswered'
  have hagree : ∀ asked : Endpoint, asked.name ≠ endpoint.name →
      answer asked = answer' asked := by
    intro asked hasked
    have hdeliver : (node.withScript script).deliver asked =
        (node.withScript script').deliver asked := by
      unfold Node.deliver Node.withScript
      dsimp only
      rw [hsame asked hasked]
    exact Option.some.inj ((hanswer asked).symm.trans (hdeliver ▸ hanswer' asked))
  obtain ⟨hleft, hfinished⟩ := Dashboard.loadAll_of_answers hanswer thresholds order dashboard
  obtain ⟨hright, hfinished'⟩ := Dashboard.loadAll_of_answers hanswer' thresholds order dashboard
  intro run run'
  refine ⟨⟨hfinished, hfinished'⟩, ?_, ?_, ?_⟩
  · show AgreeBeyond endpoint run.dashboard run'.dashboard
    rw [hleft, hright]
    apply agreeBeyond_foldl_parts thresholds hagree
    exact Part.capabilities.after_agreeBeyond thresholds hagree (.refl endpoint dashboard)
  · show run.dashboard.sortKeys = dashboard.sortKeys
    rw [hleft, sortKeys_foldl_parts, Part.sortKeys_after]
  · show run'.dashboard.sortKeys = dashboard.sortKeys
    rw [hright, sortKeys_foldl_parts, Part.sortKeys_after]

/-- A node at `http://node.test/` that can be reached. -/
def Node.atTest : Node :=
  ⟨⟨⟨"http", [], [], some (.name "node.test".toList), none, .rooted [[]], none, none⟩⟩, true, []⟩

/-- A node that refuses the request for its connections. -/
def Script.refusing : Script := [("connections", .answer ⟨500, by decide⟩ [])]

/-- A node that drops the request for its connections. -/
def Script.dropping : Script := [("connections", .close)]

/-- A refused request and a dropped one differ in the region of the connections only. -/
theorem loadAll_agreeBeyond_refusing_dropping :
    let run :=
      Dashboard.initial.loadAll (Node.atTest.withScript .refusing).deliver .standard .directoryFirst
    let run' :=
      Dashboard.initial.loadAll (Node.atTest.withScript .dropping).deliver .standard .directoryFirst
    (∀ asked, Script.refusing.reply asked ≠ .hang) ∧
      (∀ asked, Script.dropping.reply asked ≠ .hang) ∧
      (∀ asked : Endpoint, asked.name ≠ Endpoint.connections.name →
        Script.refusing.reply asked = Script.dropping.reply asked) ∧
      (run.finished = true ∧ run'.finished = true) ∧
      AgreeBeyond .connections run.dashboard run'.dashboard ∧
      run.dashboard.sortKeys = Dashboard.initial.sortKeys ∧
      run'.dashboard.sortKeys = Dashboard.initial.sortKeys := by
  have hrefusing : ∀ asked, Script.refusing.reply asked ≠ .hang := by
    intro asked
    cases asked <;> exact Reply.noConfusion
  have hdropping : ∀ asked, Script.dropping.reply asked ≠ .hang := by
    intro asked
    cases asked <;> exact Reply.noConfusion
  have hsame : ∀ asked : Endpoint, asked.name ≠ Endpoint.connections.name →
      Script.refusing.reply asked = Script.dropping.reply asked := by
    intro asked hasked
    cases asked with
    | connections => exact absurd rfl hasked
    | _ => rfl
  exact ⟨hrefusing, hdropping, hsame,
    loadAll_agreeBeyond .atTest .standard .directoryFirst .initial .connections .refusing .dropping
      hrefusing hdropping hsame⟩

end MeshConsole
