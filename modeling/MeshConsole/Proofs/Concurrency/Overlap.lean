import Mathlib.Order.BooleanAlgebra.Set
import MeshConsole.Proofs.Concurrency.Calls

/-!
# Overlapping calls are as good as calls one after the other

While calls are under way, the dashboard differs from that of the serial run in transient fields
only, and in each of them only if a call that writes it has begun. That is the relation `Lag`, and it
survives every section: a first section changes a transient field of a call that has begun, a second
one settles the field, and every other section takes the fields as they come.

    serial run   ──────────────── whole call ──▶
                 Lag               Lag
    schedule     ── first section ── second ───▶

Traces need more. A failed trace keeps the target and the rows that it finds, so a trace that runs has
to stay in the region, and no other trace may overlap it.
-/

namespace MeshConsole

/-! ## The shapes of sections -/

/-- What the sections of an operation can be. -/
inductive Operation.Shape (operation : Operation) : List (Dashboard → Dashboard) → Prop where
  | nothing : operation.Shape []
  | single (update : Dashboard → Dashboard) (hsteady : Steady update) : operation.Shape [update]
  | connections (outcome : Outcome (Option Connections))
      (hoperation : operation = .load .connections) :
      operation.Shape [Dashboard.awaitConnections, Dashboard.showConnections outcome]
  | versions (outcome : Outcome Json) (hoperation : operation = .load .versions) :
      operation.Shape [Dashboard.awaitVersions, Dashboard.showVersions outcome]
  | trace (target : String) (outcome : Outcome String) (htarget : operation.target? = some target) :
      operation.Shape [Dashboard.awaitTrace target, Dashboard.showTrace target outcome]

/-- The sections of an operation have one of the shapes, whatever its requests result in. -/
theorem Operation.shape (thresholds : Thresholds) (answer : Endpoint → Exchange)
    (operation : Operation) :
    operation.Shape ((operation.branch thresholds).updates answer) := by
  cases operation with
  | load part =>
      cases part with
      | capabilities => exact .single _ (.showCapabilities _)
      | status =>
          show Operation.Shape _ ((Branch.loadStatus thresholds).updates answer)
          unfold Branch.loadStatus
          rw [Branch.updates]
          cases (answer .status).json (Option Status) with
          | error failure => exact .single _ (.failStatus failure)
          | ok found =>
              -- Whether OLSR2 is asked for decides about a request, not about a section.
              dsimp only
              split
              · exact .single _ (.showStatus _ _ _)
              · exact .single _ (.showStatus _ _ _)
      | directory =>
          show Operation.Shape _ (Branch.loadDirectory.updates answer)
          unfold Branch.loadDirectory
          rw [Branch.updates]
          cases (answer .nodedb).json Directory with
          | error failure => exact .nothing
          | ok found => exact .single _ (.keepDirectory found)
      | connections => exact .connections _ rfl
      | versions => exact .versions _ rfl
  | trace target =>
      by_cases h : (Text.trim target).isEmpty = true
      · rw [branch, Branch.traceTo, if_pos h]
        exact .single _ .requestTarget
      · rw [branch, Branch.traceTo, if_neg h]
        exact .trace _ _ (if_neg h)
  | sort table key => exact .single _ (.sort table key)

theorem Call.shape (thresholds : Thresholds) (call : Call) :
    call.operation.Shape (call.sections thresholds) := by
  have hshape := call.operation.shape thresholds call.answer
  unfold sections
  split
  case h_1 => exact .single id .nothing
  case h_2 => exact hshape

/-! ## How far a schedule is from its serial run -/

variable {ι : Type} {operation : ι → Operation}

/-- The dashboards that calls under way can make of that of the serial run. -/
inductive Lag (operation : ι → Operation) (begun : Set ι) (serial : Dashboard) :
    Dashboard → Prop where
  | intro (connectionsLine versionsLine : String) (trace : TraceRegion)
      (hconnections : (∀ call ∈ begun, operation call ≠ .load .connections) →
        connectionsLine = serial.connections.status)
      (hversions : (∀ call ∈ begun, operation call ≠ .load .versions) →
        versionsLine = serial.versions.status)
      (htrace : (∀ call ∈ begun, (operation call).target? = none) → trace = serial.traceroute)
      (hrunning : ∀ call ∈ begun, ∀ target, (operation call).target? = some target →
        trace.IsRunning target) :
      Lag operation begun serial (serial.withTransient connectionsLine versionsLine trace)

namespace Lag

variable {begun : Set ι} {call : ι} {serial actual : Dashboard}

/-- What holds of the calls that go on, and of the one that has ended, held of all of them. -/
theorem forall_of_diff {p : ι → Prop} (hcall : p call) (h : ∀ other ∈ begun \ {call}, p other) :
    ∀ other ∈ begun, p other := by
  intro other hmem
  by_cases heq : other = call
  · rw [heq]
    exact hcall
  · exact h other ⟨hmem, heq⟩

/-- A call that runs no trace can begin beside the one that does. -/
theorem running_insert {trace : TraceRegion} (hcall : (operation call).target? = none)
    (h : ∀ other ∈ begun, ∀ target, (operation other).target? = some target →
      trace.IsRunning target) :
    ∀ other ∈ insert call begun, ∀ target, (operation other).target? = some target →
      trace.IsRunning target := by
  intro other hmem target htarget
  rcases hmem with rfl | hmem
  · rw [hcall] at htarget
    cases htarget
  · exact h other hmem target htarget

/-- Without calls under way there is no difference. -/
theorem refl (serial : Dashboard) : Lag operation ∅ serial serial :=
  .intro serial.connections.status serial.versions.status serial.traceroute
    (fun _ => rfl) (fun _ => rfl) (fun _ => rfl) (fun _ hmem => absurd hmem (Set.notMem_empty _))

theorem eq_of_empty (h : Lag operation ∅ serial actual) : actual = serial := by
  obtain ⟨connectionsLine, versionsLine, trace, hconnections, hversions, htrace, -⟩ := h
  have hnone : ∀ {p : ι → Prop}, ∀ call ∈ (∅ : Set ι), p call :=
    fun call hmem => absurd hmem (Set.notMem_empty call)
  rw [hconnections hnone, hversions hnone, htrace hnone]
  rfl

/-- A steady section is the same section on both sides. -/
theorem steady {update : Dashboard → Dashboard} (hsteady : Steady update)
    (h : Lag operation begun serial actual) :
    Lag operation begun (update serial) (update actual) := by
  obtain ⟨change, hchange, hkeep⟩ := hsteady
  obtain ⟨connectionsLine, versionsLine, trace, hconnections, hversions, htrace, hrunning⟩ := h
  -- With its own transient fields a dashboard is itself, so they move through the section too.
  have hself : update serial =
      (update serial).withTransient serial.connections.status serial.versions.status
        (change serial.traceroute) :=
    hchange serial serial.connections.status serial.versions.status serial.traceroute
  rw [hchange]
  refine .intro _ _ _ ?_ ?_ ?_ ?_
  · intro hnone
    rw [hconnections hnone, hself]
    rfl
  · intro hnone
    rw [hversions hnone, hself]
    rfl
  · intro hnone
    rw [htrace hnone, hself]
    rfl
  · intro other hmem target htarget
    exact hkeep target trace (hrunning other hmem target htarget)

/-! ### Connections -/

theorem awaitConnections (hoperation : operation call = .load .connections)
    (h : Lag operation begun serial actual) :
    Lag operation (insert call begun) serial actual.awaitConnections := by
  obtain ⟨connectionsLine, versionsLine, trace, -, hversions, htrace, hrunning⟩ := h
  refine .intro Dashboard.loading versionsLine trace ?_ ?_ ?_ ?_
  · intro hnone
    exact absurd hoperation (hnone call (Set.mem_insert call begun))
  · exact fun hnone => hversions (Set.forall_of_forall_insert hnone)
  · exact fun hnone => htrace (Set.forall_of_forall_insert hnone)
  · exact running_insert (by rw [hoperation]; rfl) hrunning

theorem showConnections (hoperation : operation call = .load .connections)
    (outcome : Outcome (Option Connections)) (h : Lag operation begun serial actual) :
    Lag operation (begun \ {call}) (serial.awaitConnections.showConnections outcome)
      (actual.showConnections outcome) := by
  obtain ⟨connectionsLine, versionsLine, trace, -, hversions, htrace, hrunning⟩ := h
  rw [Dashboard.showConnections_withTransient]
  refine .intro _ versionsLine trace (fun _ => rfl) ?_ ?_ ?_
  · intro hnone
    rw [Dashboard.showConnections_awaitConnections]
    exact hversions (forall_of_diff (by rw [hoperation]; decide) hnone)
  · intro hnone
    rw [Dashboard.showConnections_awaitConnections]
    exact htrace (forall_of_diff (by rw [hoperation]; rfl) hnone)
  · intro other hmem target htarget
    exact hrunning other hmem.1 target htarget

/-! ### Versions -/

theorem awaitVersions (hoperation : operation call = .load .versions)
    (h : Lag operation begun serial actual) :
    Lag operation (insert call begun) serial actual.awaitVersions := by
  obtain ⟨connectionsLine, versionsLine, trace, hconnections, -, htrace, hrunning⟩ := h
  refine .intro connectionsLine Dashboard.loading trace ?_ ?_ ?_ ?_
  · exact fun hnone => hconnections (Set.forall_of_forall_insert hnone)
  · intro hnone
    exact absurd hoperation (hnone call (Set.mem_insert call begun))
  · exact fun hnone => htrace (Set.forall_of_forall_insert hnone)
  · exact running_insert (by rw [hoperation]; rfl) hrunning

theorem showVersions (hoperation : operation call = .load .versions)
    (outcome : Outcome Json) (h : Lag operation begun serial actual) :
    Lag operation (begun \ {call}) (serial.awaitVersions.showVersions outcome)
      (actual.showVersions outcome) := by
  obtain ⟨connectionsLine, versionsLine, trace, hconnections, -, htrace, hrunning⟩ := h
  rw [Dashboard.showVersions_withTransient]
  refine .intro connectionsLine _ trace ?_ (fun _ => rfl) ?_ ?_
  · intro hnone
    rw [Dashboard.showVersions_awaitVersions]
    exact hconnections (forall_of_diff (by rw [hoperation]; decide) hnone)
  · intro hnone
    rw [Dashboard.showVersions_awaitVersions]
    exact htrace (forall_of_diff (by rw [hoperation]; rfl) hnone)
  · intro other hmem target htarget
    exact hrunning other hmem.1 target htarget

/-! ### Traces -/

/-- A trace that begins while no other one is under way is the one that runs. -/
theorem awaitTrace {target : String} (htarget : (operation call).target? = some target)
    (halone : ∀ other ∈ begun, (operation other).target?.isSome → other = call)
    (h : Lag operation begun serial actual) :
    Lag operation (insert call begun) serial (actual.awaitTrace target) := by
  obtain ⟨connectionsLine, versionsLine, trace, hconnections, hversions, -, -⟩ := h
  refine .intro connectionsLine versionsLine (.running target) ?_ ?_ ?_ ?_
  · exact fun hnone => hconnections (Set.forall_of_forall_insert hnone)
  · exact fun hnone => hversions (Set.forall_of_forall_insert hnone)
  · intro hnone
    rw [hnone call (Set.mem_insert call begun)] at htarget
    cases htarget
  · intro other hmem otherTarget hother
    have heq : other = call := by
      rcases hmem with rfl | hmem
      · rfl
      · exact halone other hmem (Option.isSome_of_eq_some hother)
    rw [heq, htarget] at hother
    rw [← Option.some.inj hother]
    exact TraceRegion.isRunning_running target

/-- A trace that ends is the one that was running, and afterwards none is. -/
theorem showTrace {target : String} (htarget : (operation call).target? = some target)
    (hmem : call ∈ begun)
    (halone : ∀ other ∈ begun, (operation other).target?.isSome → other = call)
    (outcome : Outcome String) (h : Lag operation begun serial actual) :
    Lag operation (begun \ {call}) ((serial.awaitTrace target).showTrace target outcome)
      (actual.showTrace target outcome) := by
  obtain ⟨connectionsLine, versionsLine, trace, hconnections, hversions, -, hrunning⟩ := h
  rw [Dashboard.showTrace_withTransient _ _ _ (hrunning call hmem target htarget)]
  have hload : ∀ part, operation call ≠ .load part := by
    intro part hoperation
    rw [hoperation] at htarget
    cases htarget
  refine .intro connectionsLine versionsLine _ ?_ ?_ (fun _ => rfl) ?_
  · intro hnone
    rw [Dashboard.showTrace_awaitTrace]
    exact hconnections (forall_of_diff (hload .connections) hnone)
  · intro hnone
    rw [Dashboard.showTrace_awaitTrace]
    exact hversions (forall_of_diff (hload .versions) hnone)
  · -- No other trace was under way, so none is left to run.
    intro other hother otherTarget hotherTarget
    exact absurd (halone other hother.1 (Option.isSome_of_eq_some hotherTarget)) hother.2

end Lag

/-! ## The simulation -/

theorem append_singleton_eq_pair {α : Type} {before : List α} {first second update : α}
    (h : [first, second] = before ++ [update]) : before = [first] ∧ update = second := by
  have h' : [first] ++ [second] = before ++ [update] := h
  obtain ⟨hbefore, hupdate⟩ := List.append_inj' h' rfl
  exact ⟨hbefore.symm, (List.cons.inj hupdate).1.symm⟩

theorem append_cons_eq_pair {α : Type} {before after : List α} {first second update : α}
    (h : [first, second] = before ++ update :: after) (hafter : after ≠ []) :
    update = first := by
  cases before with
  | nil => exact (List.cons.inj h).1.symm
  | cons head tail =>
      cases tail <;> simp_all

/-- A schedule of operations lags behind its serial run, and never further than `Lag` allows. -/
theorem Lag.simulation {sections : ι → List (Dashboard → Dashboard)}
    (hshape : ∀ call, (operation call).Shape (sections call)) :
    Simulation sections (fun call => (operation call).target?.isSome) (Lag operation) where
  start := Lag.refl
  finish := Lag.eq_of_empty
  inner := by
    intro begun call before update after serial actual hsections hafter halone hlag
    have h := hshape call
    rw [hsections] at h
    generalize hlist : before ++ update :: after = list at h
    cases h with
    | nothing => simp at hlist
    | single first hsteady => simp_all [List.append_eq_singleton_iff]
    | connections outcome hoperation =>
        rw [append_cons_eq_pair hlist.symm hafter]
        exact hlag.awaitConnections hoperation
    | versions outcome hoperation =>
        rw [append_cons_eq_pair hlist.symm hafter]
        exact hlag.awaitVersions hoperation
    | trace target outcome htarget =>
        rw [append_cons_eq_pair hlist.symm hafter]
        exact hlag.awaitTrace htarget (halone (Option.isSome_of_eq_some htarget))
  last := by
    intro begun call before update serial actual hsections hbegun halone hlag
    have h := hshape call
    generalize sections call = list at h hsections
    cases h with
    | nothing => simp at hsections
    | single first hsteady =>
        obtain ⟨hbefore, hupdate⟩ : before = [] ∧ update = first := by
          simpa using List.singleton_eq_append_iff.mp hsections
        -- A call of one section ends before it counts as begun.
        have hnotMem : call ∉ begun := fun hmem => hbegun.mp hmem hbefore
        rw [Set.sdiff_singleton_eq_self hnotMem, hupdate]
        exact hlag.steady hsteady
    | connections outcome hoperation =>
        rw [(append_singleton_eq_pair hsections).2]
        exact hlag.showConnections hoperation outcome
    | versions outcome hoperation =>
        rw [(append_singleton_eq_pair hsections).2]
        exact hlag.showVersions hoperation outcome
    | trace target outcome htarget =>
        obtain ⟨hbefore, hupdate⟩ := append_singleton_eq_pair hsections
        have hmem : call ∈ begun := hbegun.mpr (by rw [hbefore]; exact List.cons_ne_nil _ _)
        rw [hupdate]
        exact hlag.showTrace htarget hmem (halone (Option.isSome_of_eq_some htarget)) outcome

/-! ## Overlapping calls -/

/-- The serial run of calls runs one call after the other. -/
theorem runCalls_sections (thresholds : Thresholds) (calls : ι → Call) (order : List ι)
    (dashboard : Dashboard) :
    runCalls (fun call => (calls call).sections thresholds) order dashboard =
      order.foldl (fun dashboard call => (calls call).run thresholds dashboard) dashboard := by
  induction order generalizing dashboard with
  | nil => rfl
  | cons call order ih =>
      rw [runCalls_cons, Call.runSections_sections, ih, List.foldl_cons]

/-- Overlapping calls are as good as calls one after the other. However the sections of the calls are
merged, the dashboard is in the end that of the same calls run one at a time, each of them once, in
the order in which they came to their ends. Only traces must not overlap each other. -/
theorem run_overlapping [DecidableEq ι] (thresholds : Thresholds) (calls : ι → Call)
    (schedule : Schedule fun call => (calls call).sections thresholds)
    (hapart : ∀ call other, (calls call).operation.target?.isSome →
      (calls other).operation.target?.isSome → other ≠ call → ¬ schedule.Interrupts other call)
    (dashboard : Dashboard) :
    (schedule.completionOrder.Nodup ∧ ∀ call, call ∈ schedule.completionOrder) ∧
      schedule.completionOrder.Pairwise
        (fun first second => EndsBefore first second schedule.calls) ∧
      schedule.run dashboard =
        schedule.completionOrder.foldl
          (fun dashboard call => (calls call).run thresholds dashboard) dashboard := by
  refine ⟨⟨schedule.nodup_completionOrder, ?_⟩, schedule.pairwise_completionOrder, ?_⟩
  · intro call
    exact schedule.mem_completionOrder.mpr ((calls call).sections_ne_nil thresholds)
  · rw [← runCalls_sections]
    exact (Lag.simulation fun call => (calls call).shape thresholds).run_eq_serial schedule hapart
      dashboard

/-- A load of the connections, a trace, a sort, a load of the directory and another trace, each of
whose requests is lost. -/
def Call.lost : Fin 5 → Call
  | 0 => ⟨.load .connections, fun _ => .error ⟨.unsent, ""⟩⟩
  | 1 => ⟨.trace "10.0.0.1", fun _ => .error ⟨.unsent, ""⟩⟩
  | 2 => ⟨.sort .connections "port", fun _ => .error ⟨.unsent, ""⟩⟩
  | 3 => ⟨.load .directory, fun _ => .error ⟨.unsent, ""⟩⟩
  | 4 => ⟨.trace "10.0.0.2", fun _ => .error ⟨.unsent, ""⟩⟩

/-- Both traces begin while the connections are awaited, and the second one ends after them. -/
def Schedule.lost : Schedule fun call => (Call.lost call).sections .standard where
  events :=
    let failure : Failure := .transport ⟨.unsent, ""⟩
    [(0, Dashboard.awaitConnections),
     (1, Dashboard.awaitTrace "10.0.0.1"),
     (2, fun dashboard => dashboard.sort .connections "port"),
     (1, Dashboard.showTrace "10.0.0.1" (.error failure)),
     (4, Dashboard.awaitTrace "10.0.0.2"),
     (3, id),
     (0, Dashboard.showConnections (.error failure)),
     (4, Dashboard.showTrace "10.0.0.2" (.error failure))]
  sectionsOf_events call :=
    match call with
    | 0 | 1 | 2 | 3 | 4 => rfl

/-- The sort, the first trace and the directory interrupt the load of the connections, which ends
before the second trace does. -/
theorem run_overlapping_lost :
    (∀ call other : Fin 5, (Call.lost call).operation.target?.isSome →
      (Call.lost other).operation.target?.isSome → other ≠ call →
      ¬ Schedule.lost.Interrupts other call) ∧
      Schedule.lost.run .initial =
        [2, 1, 3, 0, 4].foldl
          (fun dashboard call => (Call.lost call).run .standard dashboard) .initial := by
  have hapart : ∀ call other : Fin 5, (Call.lost call).operation.target?.isSome →
      (Call.lost other).operation.target?.isSome → other ≠ call →
      ¬ Schedule.lost.Interrupts other call := by
    decide
  exact ⟨hapart, (run_overlapping .standard Call.lost .lost hapart .initial).2.2⟩

end MeshConsole
