import MeshConsole.Proofs.Concurrency.Overlap
import MeshConsole.Proofs.Dashboard.Isolation

/-!
# Confluence of a full load

A full load runs four branches at once. Whatever the order of their sections, one of just two
dashboards comes out, and which one depends on a single question: is the directory kept before the
connections are shown?

1. Every schedule of the branches leaves what the whole parts leave, loaded one after the other in the
   order in which they are complete (`Lag.simulation`).
2. Any two parts can be exchanged, save the directory and the connections (`Part.after_comm`).
3. Two orders of the parts leave the same if those two parts stand in the same order in both
   (`foldl_eq_of_order`).
4. That order changes the rows of the connections and nothing else.
-/

namespace MeshConsole

/-! ## Orders that agree where it matters -/

section Order

variable {α β : Type} {f : β → α → β}

/-- A step can be taken before steps that it can be exchanged with. -/
theorem foldl_bubble {pivot : α} {before : List α} (after : List α)
    (hcomm : ∀ step ∈ before, ∀ state, f (f state step) pivot = f (f state pivot) step)
    (state : β) :
    (before ++ pivot :: after).foldl f state = (before ++ after).foldl f (f state pivot) := by
  induction before generalizing state with
  | nil => rfl
  | cons step before ih =>
      show (before ++ pivot :: after).foldl f (f state step) =
        (before ++ after).foldl f (f (f state pivot) step)
      rw [ih fun other hother => hcomm other (List.mem_cons_of_mem step hother),
        hcomm step List.mem_cons_self]

/-- Two orders of the same steps leave the same if any two steps that cannot be exchanged stand in the
same order in both. -/
theorem foldl_eq_of_order {first second : List α} (hnodup : first.Nodup)
    (hperm : first.Perm second)
    (horder : ∀ a ∈ first, ∀ b ∈ first, (∀ state, f (f state a) b = f (f state b) a) ∨
      ([a, b].Sublist second → [a, b].Sublist first))
    (state : β) : first.foldl f state = second.foldl f state := by
  induction first generalizing second state with
  | nil =>
      rw [List.nil_perm.mp hperm]
  | cons head rest ih =>
      obtain ⟨hhead, hrest⟩ := List.nodup_cons.mp hnodup
      obtain ⟨before, after, rfl⟩ := List.append_of_mem (hperm.mem_iff.mp List.mem_cons_self)
      have hrestPerm : rest.Perm (before ++ after) :=
        List.Perm.cons_inv (hperm.trans List.perm_middle)
      -- What stands before the head in the second order stands after it in the first one.
      have hcomm : ∀ step ∈ before, ∀ state, f (f state step) head = f (f state head) step := by
        intro step hstep
        have hmem : step ∈ rest := hrestPerm.mem_iff.mpr (List.mem_append_left after hstep)
        rcases horder step (List.mem_cons_of_mem head hmem) head List.mem_cons_self with
          hcomm | hkept
        · exact hcomm
        · have hsub : [step, head].Sublist (before ++ head :: after) :=
            (List.singleton_sublist.mpr hstep).append
              (List.singleton_sublist.mpr List.mem_cons_self)
          cases hkept hsub with
          | cons _ hsub =>
              exact absurd (hsub.subset (List.mem_cons_of_mem step List.mem_cons_self)) hhead
          | cons_cons _ hsub => exact absurd hmem hhead
      rw [foldl_bubble after hcomm, List.foldl_cons]
      refine ih hrest hrestPerm ?_ (f state head)
      intro a ha b hb
      rcases horder a (List.mem_cons_of_mem head ha) b (List.mem_cons_of_mem head hb) with
        hcomm | hkept
      · exact Or.inl hcomm
      · refine Or.inr fun hsub => ?_
        have hwider : (before ++ after).Sublist (before ++ head :: after) :=
          (List.Sublist.refl before).append (List.sublist_cons_self head after)
        cases hkept (hsub.trans hwider) with
        | cons _ hsub => exact hsub
        | cons_cons _ hsub => exact absurd ha hhead

end Order

/-! ## Parts that can be exchanged -/

namespace AgreeBeyond

variable {endpoint other : Endpoint} {first second : Dashboard}

/-- Two dashboards that agree beyond the reach of each of two endpoints differ in what both can
reach. -/
theorem eq_withReachOf (h : AgreeBeyond endpoint first second)
    (h' : AgreeBeyond other first second) :
    second = first.withReachOf endpoint (first.withReachOf other second) := by
  calc second = first.withReachOf endpoint second := h
    _ = first.withReachOf endpoint (first.withReachOf other second) :=
      congrArg (first.withReachOf endpoint) h'

/-- The directory and the connections can both reach the rows of the connections. -/
theorem eq_withRows (h : AgreeBeyond .nodedb first second)
    (h' : AgreeBeyond .connections first second) :
    second = first.withRows .connections second.connections.rows :=
  h.eq_withReachOf h'

end AgreeBeyond

namespace Part

/-- Two parts are in each other's way: the connections read what the directory writes. -/
def Meet (part other : Part) : Prop :=
  part = directory ∧ other = connections ∨ part = connections ∧ other = directory

instance (part other : Part) : Decidable (part.Meet other) :=
  inferInstanceAs (Decidable (part = directory ∧ other = connections ∨
    part = connections ∧ other = directory))

/-- Two parts that do not meet have no field in common that both can reach. -/
theorem withReachOf_withReachOf {part other : Part} (hne : part ≠ other)
    (hmeet : ¬ part.Meet other) (first second : Dashboard) :
    first.withReachOf part.endpoint (first.withReachOf other.endpoint second) = first := by
  cases part <;> cases other <;> first
    | rfl
    | exact absurd rfl hne
    | exact absurd (by decide) hmeet

variable (thresholds : Thresholds) (answer : Endpoint → Exchange)

/-- In whatever order two parts are loaded, the dashboards agree beyond the reach of the first. -/
theorem after_after_agreeBeyond (part other : Part) (dashboard : Dashboard) :
    AgreeBeyond part.endpoint
      (other.after thresholds answer (part.after thresholds answer dashboard))
      (part.after thresholds answer (other.after thresholds answer dashboard)) := by
  have hbefore : AgreeBeyond part.endpoint (part.after thresholds answer dashboard) dashboard :=
    (after_confined thresholds answer part dashboard).symm
  exact (after_agreeBeyond_of_same thresholds other hbefore).trans
    (after_confined thresholds answer part (other.after thresholds answer dashboard))

/-- Parts that do not meet can be exchanged. -/
theorem after_comm {part other : Part} (hmeet : ¬ part.Meet other) (dashboard : Dashboard) :
    other.after thresholds answer (part.after thresholds answer dashboard) =
      part.after thresholds answer (other.after thresholds answer dashboard) := by
  by_cases heq : part = other
  · rw [heq]
  · have h := after_after_agreeBeyond thresholds answer part other dashboard
    have h' := (after_after_agreeBeyond thresholds answer other part dashboard).symm
    rw [h.eq_withReachOf h', withReachOf_withReachOf heq hmeet]

end Part

/-! ## The branches that run at once -/

namespace Part

/-- The sections of the branches that a full load runs at once. The capabilities are not among
them. -/
def joined (thresholds : Thresholds) (answer : Endpoint → Exchange) :
    Part → List (Dashboard → Dashboard)
  | capabilities => []
  | part => (part.branch thresholds).updates answer

variable (thresholds : Thresholds) (answer : Endpoint → Exchange)

theorem shape_joined (part : Part) :
    (Operation.load part).Shape (part.joined thresholds answer) := by
  cases part with
  | capabilities => exact .nothing
  | status => exact (Operation.load status).shape thresholds answer
  | directory => exact (Operation.load directory).shape thresholds answer
  | connections => exact (Operation.load connections).shape thresholds answer
  | versions => exact (Operation.load versions).shape thresholds answer

theorem runSections_joined {part : Part} (h : part ≠ capabilities) (dashboard : Dashboard) :
    runSections (part.joined thresholds answer) dashboard =
      part.after thresholds answer dashboard := by
  cases part with
  | capabilities => exact absurd rfl h
  | _ => rfl

/-- The directory is kept in one section, if it has arrived. -/
theorem length_joined_directory_le_one :
    (directory.joined thresholds answer).length ≤ 1 := by
  show (Branch.loadDirectory.updates answer).length ≤ 1
  unfold Branch.loadDirectory
  rw [Branch.updates]
  cases (answer .nodedb).json Directory with
  | error failure => exact Nat.zero_le 1
  | ok found => exact Nat.le_refl 1

end Part

/-- Which of the two orders a schedule follows: that in which the directory is kept before the last
section of the connections, in which they are shown, or the other one. -/
def Schedule.loadOrder {sections : Part → List (Dashboard → Dashboard)}
    (schedule : Schedule sections) : LoadOrder :=
  if [.directory, .connections].Sublist schedule.calls then .directoryFirst
  else .connectionsFirst

theorem LoadOrder.nodup_parts (order : LoadOrder) : order.parts.Nodup := by
  cases order <;> decide

theorem LoadOrder.eq_directoryFirst {order : LoadOrder}
    (h : [Part.directory, Part.connections].Sublist order.parts) : order = .directoryFirst := by
  cases order with
  | directoryFirst => rfl
  | connectionsFirst => exact absurd h (by decide)

theorem LoadOrder.eq_connectionsFirst {order : LoadOrder}
    (h : [Part.connections, Part.directory].Sublist order.parts) : order = .connectionsFirst := by
  cases order with
  | directoryFirst => exact absurd h (by decide)
  | connectionsFirst => rfl

section Joined

variable {thresholds : Thresholds} {answer : Endpoint → Exchange}
  (schedule : Schedule (Part.joined thresholds answer))

/-- Whole parts, one after the other. -/
theorem runCalls_joined (parts : List Part) (h : .capabilities ∉ parts) (dashboard : Dashboard) :
    runCalls (Part.joined thresholds answer) parts dashboard =
      parts.foldl (fun dashboard part => part.after thresholds answer dashboard) dashboard := by
  induction parts generalizing dashboard with
  | nil => rfl
  | cons part parts ih =>
      obtain ⟨hpart, hparts⟩ := List.ne_and_not_mem_of_not_mem_cons h
      rw [runCalls_cons, Part.runSections_joined thresholds answer (Ne.symm hpart), ih hparts,
        List.foldl_cons]

/-- The parts that write something are the same in the order of a schedule and in that of a full
load. -/
theorem completionOrder_perm :
    schedule.completionOrder.Perm
      (schedule.loadOrder.parts.filter fun part => part.joined thresholds answer ≠ []) := by
  refine (List.perm_ext_iff_of_nodup schedule.nodup_completionOrder
    (schedule.loadOrder.nodup_parts.filter _)).mpr fun part => ?_
  rw [schedule.mem_completionOrder, List.mem_filter, LoadOrder.mem_parts, decide_eq_true_eq]
  constructor
  · intro h
    refine ⟨?_, h⟩
    rintro rfl
    exact h rfl
  · exact And.right

/-- Parts that meet come to their ends in the order of the full load that a schedule follows. -/
theorem meet_completionOrder {part other : Part} (hmeet : part.Meet other)
    (hpart : part ∈ schedule.completionOrder) (hother : other ∈ schedule.completionOrder)
    (h : [part, other].Sublist schedule.loadOrder.parts) :
    [part, other].Sublist schedule.completionOrder := by
  have hone := Part.length_joined_directory_le_one thresholds answer
  rcases hmeet with ⟨rfl, rfl⟩ | ⟨rfl, rfl⟩
  · -- The directory has one section, so it ends where it is kept.
    have hfirst := LoadOrder.eq_directoryFirst h
    apply schedule.sublist_completionOrder hone
    by_contra hnot
    rw [Schedule.loadOrder, if_neg hnot] at hfirst
    cases hfirst
  · -- The directory is kept after the last section of the connections.
    have hlast := LoadOrder.eq_connectionsFirst h
    refine (schedule.completionOrder_total (by decide) hpart hother).resolve_right fun hsub => ?_
    rw [Schedule.loadOrder, if_pos (hsub.trans (List.dedup_sublist _))] at hlast
    cases hlast

/-- A schedule of the branches leaves what a full load in its order leaves. -/
theorem run_joined (dashboard : Dashboard) :
    schedule.run dashboard =
      schedule.loadOrder.parts.foldl
        (fun dashboard part => part.after thresholds answer dashboard) dashboard := by
  have hsimulation : Simulation (Part.joined thresholds answer)
      (fun part => (Operation.load part).target?.isSome) (Lag Operation.load) :=
    Lag.simulation (Part.shape_joined thresholds answer)
  have hcapabilities : ∀ part ∈ schedule.completionOrder, part ≠ .capabilities := by
    rintro part hmem rfl
    exact schedule.mem_completionOrder.mp hmem rfl
  -- No trace is among the calls, so nothing has to be kept apart.
  have hserial := hsimulation.run_eq_serial schedule (fun _ _ h => nomatch h) dashboard
  have horder : runCalls (Part.joined thresholds answer) schedule.completionOrder dashboard =
      runCalls (Part.joined thresholds answer) (schedule.loadOrder.parts.filter fun part =>
        part.joined thresholds answer ≠ []) dashboard := by
    refine foldl_eq_of_order schedule.nodup_completionOrder (completionOrder_perm schedule) ?_ _
    intro part hpart other hother
    by_cases hmeet : part.Meet other
    · right
      intro hsub
      exact meet_completionOrder schedule hmeet hpart hother (hsub.trans List.filter_sublist)
    · left
      intro state
      simp only [Part.runSections_joined thresholds answer (hcapabilities part hpart),
        Part.runSections_joined thresholds answer (hcapabilities other hother)]
      exact Part.after_comm thresholds answer hmeet state
  rw [hserial, horder, runCalls_filter, runCalls_joined]
  rw [LoadOrder.mem_parts]
  exact fun h => h rfl

/-- The two orders of a full load leave dashboards that differ in the rows of the connections only. -/
theorem foldl_parts_withRows (thresholds : Thresholds) (answer : Endpoint → Exchange)
    (dashboard : Dashboard) :
    let after (order : LoadOrder) := order.parts.foldl
      (fun dashboard part => part.after thresholds answer dashboard) dashboard
    after .connectionsFirst =
      (after .directoryFirst).withRows .connections (after .connectionsFirst).connections.rows := by
  intro after
  have hdirectory : AgreeBeyond .nodedb (after .directoryFirst) (after .connectionsFirst) :=
    Part.after_agreeBeyond_of_same thresholds .versions
      (Part.after_after_agreeBeyond thresholds answer .directory .connections _)
  have hconnections : AgreeBeyond .connections (after .directoryFirst) (after .connectionsFirst) :=
    Part.after_agreeBeyond_of_same thresholds .versions
      (Part.after_after_agreeBeyond thresholds answer .connections .directory _).symm
  exact hdirectory.eq_withRows hconnections

end Joined

/-- **Confluence.** However the sections of the four branches are merged, the dashboard is in the end
that of the branches run one after the other in one of two orders, and that which of the two depends
on whether the directory is kept before the connections are shown. The two orders differ at most in
the rows of the connections. -/
theorem run_joined_eq_loadOrder {deliver : Endpoint → Delivery} {answer : Endpoint → Exchange}
    (hanswers : Answers deliver answer) (thresholds : Thresholds)
    (schedule : Schedule (Part.joined thresholds answer)) (dashboard : Dashboard) :
    let result (order : LoadOrder) :=
      (Branch.runAll deliver (order.parts.map (Part.branch thresholds)) dashboard).dashboard
    schedule.run dashboard = result schedule.loadOrder ∧
      result .connectionsFirst =
        (result .directoryFirst).withRows .connections
          (result .connectionsFirst).connections.rows := by
  have hresult : ∀ order : LoadOrder,
      (Branch.runAll deliver (order.parts.map (Part.branch thresholds)) dashboard).dashboard =
        order.parts.foldl (fun dashboard part => part.after thresholds answer dashboard)
          dashboard := by
    intro order
    rw [(Branch.runAll_of_answers hanswers _ dashboard).1, List.foldl_map]
    rfl
  intro result
  simp only [result, hresult]
  exact ⟨run_joined schedule dashboard, foldl_parts_withRows thresholds answer dashboard⟩

/-- A full load is a schedule of its four branches after the capabilities, in whichever order the node
answers. -/
theorem loadAll_eq_run {deliver : Endpoint → Delivery} {answer : Endpoint → Exchange}
    (hanswers : Answers deliver answer) (thresholds : Thresholds)
    (schedule : Schedule (Part.joined thresholds answer)) (dashboard : Dashboard) :
    (dashboard.loadAll deliver thresholds schedule.loadOrder).dashboard =
      schedule.run (Part.capabilities.after thresholds answer dashboard) := by
  rw [(Dashboard.loadAll_of_answers hanswers thresholds schedule.loadOrder dashboard).1,
    run_joined]

/-- A node with one port and a name for the host behind it. -/
def Exchange.named : Endpoint → Exchange
  | .nodedb => .ok ⟨.ok, "\x7b\"10.0.0.2\":\x7b\"name\":\"north\"\x7d\x7d"⟩
  | .connections => .ok ⟨.ok, "\x7b\"ports\":[\x7b\"ips\":[\"10.0.0.2\"]\x7d]\x7d"⟩
  | _ => .error ⟨.unsent, ""⟩

/-- The name arrives while the connections and the versions are awaited. -/
def Schedule.named : Schedule (Part.joined .standard Exchange.named) where
  events :=
    let failure : Failure := .transport ⟨.unsent, ""⟩
    [(.connections, Dashboard.awaitConnections),
     (.versions, Dashboard.awaitVersions),
     (.directory, Dashboard.keepDirectory ⟨[("10.0.0.2", "north")]⟩),
     (.connections,
       Dashboard.showConnections ((Exchange.named .connections).json (Option Connections))),
     (.status, Dashboard.failStatus failure),
     (.versions, Dashboard.showVersions (.error failure))]
  sectionsOf_events part := by cases part <;> rfl

/-- The connections are shown with the name. -/
theorem run_joined_eq_loadOrder_named :
    let deliver : Endpoint → Delivery := fun endpoint => .delivered (Exchange.named endpoint)
    let result (order : LoadOrder) :=
      (Branch.runAll deliver (order.parts.map (Part.branch .standard)) .initial).dashboard
    Answers deliver Exchange.named ∧
      Schedule.named.run .initial = result .directoryFirst ∧
      result .connectionsFirst =
        (result .directoryFirst).withRows .connections
          (result .connectionsFirst).connections.rows := by
  intro deliver result
  have hanswers : Answers deliver Exchange.named := fun endpoint => rfl
  have hdirectoryFirst : Schedule.named.loadOrder = .directoryFirst := by decide
  obtain ⟨hrun, hrows⟩ := run_joined_eq_loadOrder hanswers .standard .named .initial
  rw [hdirectoryFirst] at hrun
  exact ⟨hanswers, hrun, hrows⟩

end MeshConsole
