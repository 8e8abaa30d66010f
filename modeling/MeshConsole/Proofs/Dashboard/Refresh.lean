import MeshConsole.Proofs.Concurrency.Confluence

/-!
# Loading again

A part that was loaded is settled: loading it again from the same answers changes nothing. Other
parts that are loaded after it leave it settled, with one exception. The connections are shown with
the names of the directory, so a directory that comes later unsettles them:

    ── status ── directory ── connections ── versions ──▶ every part is settled
    ── status ── connections ── directory ── versions ──▶ every part but the connections is

A further full load settles the connections too, and what it leaves is what the first load would have
left in the other order. So a node that gives the same answers is loaded completely after two loads at
most, and every later load leaves the dashboard as it is (`loadAll_converges`).
-/

namespace MeshConsole

/-! ## Settled parts -/

/-- An uplink that is shown again is shown as before. -/
theorem TraceRegion.afterStatus_afterStatus (status : Status) (region : TraceRegion) :
    (region.afterStatus status).afterStatus status = region.afterStatus status := by
  unfold afterStatus
  by_cases hstays : ((Trace.ofUplink status.traceToUplink).isEmpty || region.userRun) = true
  · rw [if_pos hstays, if_pos hstays]
  · rw [if_neg hstays]
    exact ite_self _

namespace Part

/-- Loading the part from these answers changes nothing. -/
def IsSettled (thresholds : Thresholds) (answer : Endpoint → Exchange) (part : Part)
    (dashboard : Dashboard) : Prop :=
  part.after thresholds answer dashboard = dashboard

/-- A part is shown with what another part brings. -/
def Needs (part other : Part) : Prop := part = connections ∧ other = directory

variable (thresholds : Thresholds) (answer : Endpoint → Exchange)

/-- A part that was loaded is settled. -/
theorem isSettled_after (part : Part) (dashboard : Dashboard) :
    part.IsSettled thresholds answer (part.after thresholds answer dashboard) := by
  unfold IsSettled
  cases part with
  | capabilities => rfl
  | status =>
      rw [after_status, after_status]
      cases (answer .status).json (Option Status) with
      | error failure => rfl
      | ok found =>
          dsimp only
          rw [Dashboard.showStatus_eq, Dashboard.showStatus_eq]
          dsimp only
          rw [TraceRegion.afterStatus_afterStatus]
  | directory =>
      rw [after_directory, after_directory]
      cases (answer .nodedb).json Directory <;> rfl
  | connections =>
      rw [after_connections, after_connections]
      cases (answer .connections).json (Option Connections) with
      | error failure => rfl
      | ok found =>
          rw [Dashboard.showConnections_ok, Dashboard.showConnections_ok]
          rfl
  | versions =>
      rw [after_versions, after_versions]
      cases (answer .versions).json Json <;> rfl

/-- What the connections leave before a directory comes is overwritten by what they leave after it.
-/
theorem after_connections_after_directory (dashboard : Dashboard) :
    connections.after thresholds answer
        (directory.after thresholds answer (connections.after thresholds answer dashboard)) =
      connections.after thresholds answer (directory.after thresholds answer dashboard) := by
  rw [after_directory, after_directory]
  cases (answer .nodedb).json Directory with
  | error failure => exact isSettled_after thresholds answer connections dashboard
  | ok directory =>
      dsimp only
      rw [after_connections, after_connections, after_connections]
      cases (answer .connections).json (Option Connections) with
      | error failure => rfl
      | ok found =>
          rw [Dashboard.showConnections_ok, Dashboard.showConnections_ok,
            Dashboard.showConnections_ok]
          rfl

variable {thresholds answer}

/-- A directory that is kept is kept by the connections. -/
theorem IsSettled.directory_after_connections {dashboard : Dashboard}
    (h : directory.IsSettled thresholds answer dashboard) :
    directory.IsSettled thresholds answer (connections.after thresholds answer dashboard) := by
  have hconfined := after_confined thresholds answer connections dashboard
  unfold IsSettled at h ⊢
  rw [after_directory] at h ⊢
  cases hjson : (answer .nodedb).json Directory with
  | error failure => rfl
  | ok found =>
      rw [hjson] at h
      have hkept : dashboard.directory = some found :=
        (congrArg Dashboard.directory h).symm
      show { connections.after thresholds answer dashboard with directory := some found } =
        connections.after thresholds answer dashboard
      rw [← hkept, hconfined]
      rfl

/-- A settled part stays settled when other parts are loaded, but for one that it needs. -/
theorem IsSettled.after {part other : Part} {dashboard : Dashboard}
    (h : part.IsSettled thresholds answer dashboard) (hneeds : ¬ part.Needs other) :
    part.IsSettled thresholds answer (other.after thresholds answer dashboard) := by
  by_cases hmeet : part.Meet other
  · rcases hmeet with ⟨rfl, rfl⟩ | hneeded
    · exact h.directory_after_connections
    · exact absurd hneeded hneeds
  · calc part.after thresholds answer (other.after thresholds answer dashboard)
      _ = other.after thresholds answer (part.after thresholds answer dashboard) :=
        (after_comm thresholds answer hmeet dashboard).symm
      _ = other.after thresholds answer dashboard := by rw [h]

theorem IsSettled.foldl {part : Part} {dashboard : Dashboard}
    (h : part.IsSettled thresholds answer dashboard) {parts : List Part}
    (hneeds : ∀ other ∈ parts, ¬ part.Needs other) :
    part.IsSettled thresholds answer
      (parts.foldl (fun dashboard part => part.after thresholds answer dashboard) dashboard) := by
  induction parts generalizing dashboard with
  | nil => exact h
  | cons other parts ih =>
      exact ih (h.after (hneeds other List.mem_cons_self))
        fun later hlater => hneeds later (List.mem_cons_of_mem other hlater)

/-- After several parts each of them is settled, unless one that it needs was loaded after it. -/
theorem isSettled_foldl {part : Part} {parts : List Part} (hpart : part ∈ parts)
    (horder : ∀ other, part.Needs other → ¬ [part, other].Sublist parts) (dashboard : Dashboard) :
    part.IsSettled thresholds answer
      (parts.foldl (fun dashboard part => part.after thresholds answer dashboard) dashboard) := by
  obtain ⟨before, after, rfl⟩ := List.append_of_mem hpart
  rw [List.foldl_append, List.foldl_cons]
  apply (isSettled_after thresholds answer part _).foldl
  intro other hother hneeds
  apply horder other hneeds
  exact ((List.singleton_sublist.mpr hother).cons_cons part).trans
    (List.sublist_append_right before (part :: after))

end Part

/-! ## Full loads -/

namespace LoadOrder

variable {thresholds : Thresholds} {answer : Endpoint → Exchange}

/-- The dashboard after a full load whose requests are answered as given. -/
def after (thresholds : Thresholds) (answer : Endpoint → Exchange) (order : LoadOrder)
    (dashboard : Dashboard) : Dashboard :=
  (Part.capabilities :: order.parts).foldl
    (fun dashboard part => part.after thresholds answer dashboard) dashboard

/-- After a full load every part is settled, the connections only if they came last. -/
theorem isSettled_after {order : LoadOrder} {part : Part}
    (h : part = .connections → order = .directoryFirst) (dashboard : Dashboard) :
    part.IsSettled thresholds answer (order.after thresholds answer dashboard) := by
  have hpart : part ∈ Part.capabilities :: order.parts := by
    rw [List.mem_cons, mem_parts]
    exact Decidable.em _
  apply Part.isSettled_foldl hpart
  rintro other ⟨rfl, rfl⟩
  rw [h rfl]
  decide

/-- Where every part but the connections is settled, a full load loads the connections. -/
theorem after_eq_connections {dashboard : Dashboard}
    (h : ∀ part, part ≠ .connections → Part.IsSettled thresholds answer part dashboard)
    (order : LoadOrder) :
    order.after thresholds answer dashboard =
      Part.connections.after thresholds answer dashboard := by
  have hcapabilities := h .capabilities (by decide)
  have hstatus := h .status (by decide)
  have hdirectory := h .directory (by decide)
  have hversions : Part.versions.IsSettled thresholds answer
      (Part.connections.after thresholds answer dashboard) :=
    (h .versions (by decide)).after fun hneeds => Part.noConfusion hneeds.1
  unfold after
  rw [List.foldl_cons, hcapabilities]
  cases order with
  | directoryFirst =>
      unfold parts
      rw [List.foldl_cons, hstatus, List.foldl_cons, hdirectory]
      exact hversions
  | connectionsFirst =>
      unfold parts
      rw [List.foldl_cons, hstatus, List.foldl_cons, List.foldl_cons,
        hdirectory.directory_after_connections]
      exact hversions

/-- Connections that are loaded once more after a late directory are as if it had come in time. -/
theorem connections_after_connectionsFirst (dashboard : Dashboard) :
    Part.connections.after thresholds answer
        (connectionsFirst.after thresholds answer dashboard) =
      directoryFirst.after thresholds answer dashboard := by
  have hmeet : ¬ Part.versions.Meet .connections := by decide
  let status := Part.status.after thresholds answer
    (Part.capabilities.after thresholds answer dashboard)
  calc Part.connections.after thresholds answer
        (connectionsFirst.after thresholds answer dashboard)
    _ = Part.connections.after thresholds answer (Part.versions.after thresholds answer
        (Part.directory.after thresholds answer
          (Part.connections.after thresholds answer status))) := rfl
    _ = Part.versions.after thresholds answer (Part.connections.after thresholds answer
        (Part.directory.after thresholds answer
          (Part.connections.after thresholds answer status))) :=
      Part.after_comm thresholds answer hmeet _
    _ = Part.versions.after thresholds answer (Part.connections.after thresholds answer
        (Part.directory.after thresholds answer status)) := by
      rw [Part.after_connections_after_directory]
    _ = directoryFirst.after thresholds answer dashboard := rfl

/-- A second full load leaves what the first one leaves in the better order. -/
theorem after_after (first second : LoadOrder) (dashboard : Dashboard) :
    second.after thresholds answer (first.after thresholds answer dashboard) =
      directoryFirst.after thresholds answer dashboard := by
  have hothers : ∀ part : Part, part ≠ .connections →
      part.IsSettled thresholds answer (first.after thresholds answer dashboard) :=
    fun part hne => isSettled_after (fun heq => absurd heq hne) dashboard
  rw [after_eq_connections hothers]
  cases first with
  | directoryFirst => exact isSettled_after (fun _ => rfl) dashboard
  | connectionsFirst => exact connections_after_connectionsFirst dashboard

/-- Full loads leave, from the second one on, what the first one leaves in the better order. -/
theorem foldl_after (first second : LoadOrder) (later : List LoadOrder) (dashboard : Dashboard) :
    (first :: second :: later).foldl
        (fun dashboard order => order.after thresholds answer dashboard) dashboard =
      directoryFirst.after thresholds answer dashboard := by
  rw [List.foldl_cons, List.foldl_cons, after_after]
  induction later with
  | nil => rfl
  | cons order later ih => rw [List.foldl_cons, after_after, ih]

end LoadOrder

/-- **Loading again converges.** The node answers every request, and always in the same way. A full
load in which the directory is kept before the connections are shown leaves a dashboard that no
further full load changes, in whichever order. Any two or more full loads leave that same dashboard,
each of them in an order of its own. -/
theorem loadAll_converges (node : Node) (thresholds : Thresholds)
    (hanswered : ∀ endpoint, node.script.reply endpoint ≠ .hang) (dashboard : Dashboard) :
    let load (dashboard : Dashboard) (order : LoadOrder) :=
      dashboard.loadAll node.deliver thresholds order
    let settled := (load dashboard .directoryFirst).dashboard
    (∀ before order, (load before order).finished = true) ∧
      (∀ order, (load settled order).dashboard = settled) ∧
      ∀ first second later,
        (first :: second :: later).foldl
          (fun dashboard order => (load dashboard order).dashboard) dashboard = settled := by
  obtain ⟨answer, hanswer⟩ := node.exists_answers hanswered
  have hload : ∀ (order : LoadOrder) (dashboard : Dashboard),
      (dashboard.loadAll node.deliver thresholds order).dashboard =
        order.after thresholds answer dashboard :=
    fun order dashboard => (Dashboard.loadAll_of_answers hanswer thresholds order dashboard).1
  intro load settled
  refine ⟨fun before order => ?_, fun order => ?_, fun first second later => ?_⟩
  · exact (Dashboard.loadAll_of_answers hanswer thresholds order before).2
  · show (load (load dashboard .directoryFirst).dashboard order).dashboard =
      (load dashboard .directoryFirst).dashboard
    simp only [load, hload]
    exact LoadOrder.after_after .directoryFirst order dashboard
  · simp only [settled, load, hload]
    exact LoadOrder.foldl_after first second later dashboard

/-- A node with one port and a name for the host behind it. -/
def Script.named : Script :=
  [("nodedb", .answer .ok
      (Text.encode "\x7b\"10.0.0.2\":\x7b\"name\":\"north\"\x7d\x7d".toList)),
   ("connections", .answer .ok
      (Text.encode "\x7b\"ports\":[\x7b\"ips\":[\"10.0.0.2\"]\x7d]\x7d".toList))]

/-- Connections that are shown before the name arrives are shown with it by the second load, and a
third one adds nothing. -/
theorem loadAll_converges_named :
    let node := Node.atTest.withScript .named
    let load (dashboard : Dashboard) (order : LoadOrder) :=
      (dashboard.loadAll node.deliver .standard order).dashboard
    let late := load .initial .connectionsFirst
    let settled := load .initial .directoryFirst
    (∀ endpoint, node.script.reply endpoint ≠ .hang) ∧
      late.connections.rows.map (Table.cellContent 4) = ["".toList] ∧
      settled.connections.rows.map (Table.cellContent 4) = ["north".toList] ∧
      load late .connectionsFirst = settled ∧
      load (load late .connectionsFirst) .directoryFirst = settled := by
  intro node load late settled
  have hanswered : ∀ endpoint, node.script.reply endpoint ≠ .hang := by
    intro endpoint
    cases endpoint <;> exact Reply.noConfusion
  obtain ⟨-, -, hloads⟩ := loadAll_converges node .standard hanswered .initial
  exact ⟨hanswered, by decide +kernel, by decide +kernel,
    hloads .connectionsFirst .connectionsFirst [],
    hloads .connectionsFirst .connectionsFirst [.directoryFirst]⟩

end MeshConsole
