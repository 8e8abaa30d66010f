import MeshConsole.Proofs.Concurrency.Calls

/-!
# Two traces at once

A trace that succeeds replaces its region. One that fails says so in two fields and keeps the target
and the rows that it finds, which are its own unless another trace has come between:

    A₁ A₂ B₁ B₂   B finds its own target and no rows
    A₁ B₁ A₂ B₂   B finds what A left, unless A failed too
    B₁ A₁ A₂ B₂   B finds what A left

So the trace that ends last leaves what it leaves alone under an exact condition only
(`traceroute_eq_alone_iff`). The condition fails if B fails and A has found hops, or another target,
in the meantime: then the diagnostic of B stands beside the target and the hops of A.
-/

namespace MeshConsole

/-! ## What a result makes of the region that it finds -/

/-- The hops that a trace results in. A failed trace has none. -/
def Outcome.hops : Outcome String → List Hop
  | .ok output => Trace.ofOutput output
  | .error _ => []

theorem Outcome.hops_of_not_isOk {outcome : Outcome String} (h : outcome.isOk = false) :
    outcome.hops = [] := by
  cases outcome with
  | ok output => cases h
  | error failure => rfl

namespace TraceRegion

/-- The region after the result of a trace. -/
def settle (target : String) (outcome : Outcome String) (region : TraceRegion) : TraceRegion :=
  match outcome with
  | .ok output => ofOutput target output
  | .error failure =>
    { region with raw := some failure.diagnostic, summary := "Traceroute: failed" }

@[simp] theorem showTrace_traceroute (target : String) (outcome : Outcome String)
    (dashboard : Dashboard) :
    (dashboard.showTrace target outcome).traceroute =
      dashboard.traceroute.settle target outcome := by
  cases outcome <;> rfl

@[simp] theorem awaitTrace_traceroute (target : String) (dashboard : Dashboard) :
    (dashboard.awaitTrace target).traceroute = running target := rfl

/-- A success leaves the same region whatever it finds. A failure does so only if it finds its own
running trace. -/
theorem settle_eq_settle_running_iff {target : String} {outcome : Outcome String}
    {region : TraceRegion} :
    region.settle target outcome = (running target).settle target outcome ↔
      outcome.isOk = true ∨ region.IsRunning target := by
  cases outcome with
  | ok output => exact ⟨fun _ => Or.inl rfl, fun _ => rfl⟩
  | error failure =>
      constructor
      · intro h
        right
        exact ⟨congrArg TraceRegion.target h, congrArg TraceRegion.rows h,
          congrArg TraceRegion.userRun h⟩
      · intro h
        obtain ⟨rfl, hrows, huserRun⟩ := h.resolve_left (by simp [Except.isOk, Except.toBool])
        obtain ⟨target, summary, raw, rows, userRun⟩ := region
        subst hrows huserRun
        rfl

/-- What the result of another trace leaves is a running trace to the target if the other one failed
and found it, or if it has the same target and no hops. -/
theorem isRunning_settle_running_iff {target other found : String} {outcome : Outcome String} :
    ((running found).settle other outcome).IsRunning target ↔
      if outcome.isOk then other = target ∧ outcome.hops = [] else found = target := by
  cases outcome with
  | ok output =>
      constructor
      · intro h
        exact ⟨h.target_eq, List.map_eq_nil_iff.mp h.rows_eq⟩
      · intro h
        exact ⟨h.1, List.map_eq_nil_iff.mpr h.2, rfl⟩
  | error failure =>
      constructor
      · intro h
        exact h.target_eq
      · intro h
        exact ⟨h, rfl, rfl⟩

end TraceRegion

/-! ## Merges of two traces -/

/-- Two calls, of which the second one is to end last. -/
inductive Rival where
  | overtaken
  | last
deriving Repr, DecidableEq

/-- Which of two calls it is. -/
def Rival.call (overtaken last : Call) : Rival → Call
  | .overtaken => overtaken
  | .last => last

namespace Rival

variable {σ : Type}

/-- All merges of the sections of two calls. -/
def merges : List (σ → σ) → List (σ → σ) → List (List (Rival × (σ → σ)))
  | [], [] => [[]]
  | a :: as, [] => (merges as []).map fun events => (.overtaken, a) :: events
  | [], b :: bs => (merges [] bs).map fun events => (.last, b) :: events
  | a :: as, b :: bs =>
    ((merges as (b :: bs)).map fun events => (.overtaken, a) :: events) ++
      (merges (a :: as) bs).map fun events => (.last, b) :: events
termination_by as bs => as.length + bs.length

/-- A sequence of marked sections is a merge of the sections of the two calls. -/
theorem mem_merges (events : List (Rival × (σ → σ))) :
    events ∈ merges (sectionsOf .overtaken events) (sectionsOf .last events) := by
  induction events with
  | nil => simp [merges]
  | cons event events ih =>
      obtain ⟨rival, update⟩ := event
      cases rival with
      | overtaken =>
          rw [sectionsOf_cons_self, sectionsOf_cons_of_ne (by decide)]
          cases h : sectionsOf .last events with
          | nil =>
              rw [h] at ih
              simp [merges, ih]
          | cons b bs =>
              rw [h] at ih
              simp [merges, ih]
      | last =>
          rw [sectionsOf_cons_self, sectionsOf_cons_of_ne (by decide)]
          cases h : sectionsOf .overtaken events with
          | nil =>
              rw [h] at ih
              simp [merges, ih]
          | cons a as =>
              rw [h] at ih
              simp [merges, ih]

end Rival

/-- There are three merges of two calls of two sections in which the second call ends last. -/
theorem Schedule.merges_of_last {σ : Type} {sections : Rival → List (σ → σ)}
    (schedule : Schedule sections) {a₁ a₂ b₁ b₂ : σ → σ}
    (hovertaken : sections .overtaken = [a₁, a₂]) (hlast : sections .last = [b₁, b₂])
    (hends : schedule.calls.getLast? = some .last) :
    schedule.events = [(.overtaken, a₁), (.overtaken, a₂), (.last, b₁), (.last, b₂)] ∨
      schedule.events = [(.overtaken, a₁), (.last, b₁), (.overtaken, a₂), (.last, b₂)] ∨
      schedule.events = [(.last, b₁), (.overtaken, a₁), (.overtaken, a₂), (.last, b₂)] := by
  have hmem := Rival.mem_merges schedule.events
  rw [schedule.sectionsOf_events, schedule.sectionsOf_events, hovertaken, hlast] at hmem
  unfold calls at hends
  simp only [Rival.merges, List.map_cons, List.map_nil, List.cons_append, List.nil_append,
    List.mem_cons, List.not_mem_nil, or_false] at hmem
  -- In the other three merges the first call ends last.
  rcases hmem with h | h | h | h | h | h <;> rw [h] at hends ⊢ <;> simp at hends ⊢

/-! ## The trace that ends last -/

/-- What comes of the request of a trace. -/
def Call.traced (call : Call) (target : String) : Outcome String :=
  (call.answer (.traceroute target)).text

/-- A trace to a target has two sections. -/
theorem Call.sections_of_target {call : Call} {target : String}
    (h : call.operation.target? = some target) (thresholds : Thresholds) :
    call.sections thresholds =
      [Dashboard.awaitTrace target, Dashboard.showTrace target (call.traced target)] := by
  obtain ⟨operation, answer⟩ := call
  cases operation with
  | load part => cases h
  | sort table key => cases h
  | trace text =>
      have hblank : ¬ (Text.trim text).isEmpty = true := by
        intro hblank
        rw [Operation.target?, if_pos hblank] at h
        cases h
      rw [Operation.target?, if_neg hblank] at h
      obtain rfl := Option.some.inj h
      rw [sections, Operation.branch, Branch.traceTo, if_neg hblank]
      rfl

theorem Call.run_of_target {call : Call} {target : String}
    (h : call.operation.target? = some target) (thresholds : Thresholds)
    (dashboard : Dashboard) :
    (call.run thresholds dashboard).traceroute =
      (TraceRegion.running target).settle target (call.traced target) := by
  rw [← Call.runSections_sections, Call.sections_of_target h]
  exact TraceRegion.showTrace_traceroute _ _ _

section Rivals

variable {thresholds : Thresholds} {overtaken last : Call} {target other : String}

/-- What the trace that ends last finds, merge by merge. -/
theorem traceroute_of_merge (hother : overtaken.operation.target? = some other)
    (htarget : last.operation.target? = some target)
    (schedule : Schedule fun rival => (Rival.call overtaken last rival).sections thresholds)
    (hends : schedule.calls.getLast? = some .last) (dashboard : Dashboard) :
    ∃ found : TraceRegion,
      (schedule.run dashboard).traceroute = found.settle target (last.traced target) ∧
        (schedule.calls = [.overtaken, .overtaken, .last, .last] ∧ found = .running target ∨
          schedule.calls = [.overtaken, .last, .overtaken, .last] ∧
            found = (TraceRegion.running target).settle other (overtaken.traced other) ∨
          schedule.calls = [.last, .overtaken, .overtaken, .last] ∧
            found = (TraceRegion.running other).settle other (overtaken.traced other)) := by
  rcases schedule.merges_of_last (Call.sections_of_target hother thresholds)
    (Call.sections_of_target htarget thresholds) hends with h | h | h
  · refine ⟨_, ?_, Or.inl ⟨?_, rfl⟩⟩
    · rw [Schedule.run, h]
      simp
    · rw [Schedule.calls, h]
      rfl
  · refine ⟨_, ?_, Or.inr (Or.inl ⟨?_, rfl⟩)⟩
    · rw [Schedule.run, h]
      simp
    · rw [Schedule.calls, h]
      rfl
  · refine ⟨_, ?_, Or.inr (Or.inr ⟨?_, rfl⟩)⟩
    · rw [Schedule.run, h]
      simp
    · rw [Schedule.calls, h]
      rfl

/-- **The trace that ends last.** It leaves the region that it leaves alone if and only if it
succeeds, or no section of the other trace lies between its own, or both have one target and the other
trace has no hops, or the other trace began first and failed. -/
theorem traceroute_eq_alone_iff (hother : overtaken.operation.target? = some other)
    (htarget : last.operation.target? = some target)
    (schedule : Schedule fun rival => (Rival.call overtaken last rival).sections thresholds)
    (hends : schedule.calls.getLast? = some .last) (dashboard : Dashboard) :
    (schedule.run dashboard).traceroute = (last.run thresholds dashboard).traceroute ↔
      (last.traced target).isOk = true ∨
        ¬ schedule.Interrupts .overtaken .last ∨
        other = target ∧ (overtaken.traced other).hops = [] ∨
        schedule.calls.head? = some .overtaken ∧ (overtaken.traced other).isOk = false := by
  obtain ⟨found, hrun, hmerge⟩ := traceroute_of_merge hother htarget schedule hends dashboard
  rw [Call.run_of_target htarget, hrun, TraceRegion.settle_eq_settle_running_iff,
    Schedule.Interrupts]
  rcases hmerge with ⟨hcalls, rfl⟩ | ⟨hcalls, rfl⟩ | ⟨hcalls, rfl⟩
  · -- The last trace finds its own running one, and nothing has come between.
    have hfree : ¬ [Rival.last, .overtaken, .last].Sublist schedule.calls := by
      rw [hcalls]
      decide
    exact ⟨fun _ => Or.inr (Or.inl hfree),
      fun _ => Or.inr (TraceRegion.isRunning_running target)⟩
  · -- The other trace found the one that the last trace began, and leaves it if it fails.
    have hbetween : [Rival.last, .overtaken, .last].Sublist schedule.calls := by
      rw [hcalls]
      decide
    have hhead : schedule.calls.head? = some .overtaken := by rw [hcalls]; rfl
    rw [TraceRegion.isRunning_settle_running_iff]
    cases hok : (overtaken.traced other).isOk with
    | true => simp [hbetween]
    | false => simp [hbetween, hhead]
  · -- The other trace began after the last one, and its target stands there.
    have hbetween : [Rival.last, .overtaken, .last].Sublist schedule.calls := by
      rw [hcalls]
      decide
    have hhead : schedule.calls.head? = some .last := by rw [hcalls]; rfl
    rw [TraceRegion.isRunning_settle_running_iff]
    cases hok : (overtaken.traced other).isOk with
    | true => simp [hbetween]
    | false => simp [hbetween, hhead, Outcome.hops_of_not_isOk hok]

end Rivals

/-- A trace whose request is lost. -/
def Call.lostTrace (target : String) : Call := ⟨.trace target, fun _ => .error ⟨.unsent, ""⟩⟩

/-- A trace that finds one hop. -/
def Call.shortTrace : Call :=
  ⟨.trace "10.0.0.1", fun _ =>
    .ok ⟨.ok, "traceroute to 10.0.0.1\n1 north (10.0.0.1) 0.5ms"⟩⟩

/-- Two traces that both fail, each with a section of the other one between its own. -/
def Schedule.crossing :
    Schedule fun rival =>
      (Rival.call (.lostTrace "10.0.0.1") (.lostTrace "10.0.0.2") rival).sections .standard where
  events :=
    let failure : Failure := .transport ⟨.unsent, ""⟩
    [(.overtaken, Dashboard.awaitTrace "10.0.0.1"),
     (.last, Dashboard.awaitTrace "10.0.0.2"),
     (.overtaken, Dashboard.showTrace "10.0.0.1" (.error failure)),
     (.last, Dashboard.showTrace "10.0.0.2" (.error failure))]
  sectionsOf_events rival := by cases rival <;> rfl

/-- The last trace is interrupted, and leaves what it leaves alone: the other one began first and
failed. -/
theorem traceroute_eq_alone_crossing :
    (Call.lostTrace "10.0.0.1").operation.target? = some "10.0.0.1" ∧
      (Call.lostTrace "10.0.0.2").operation.target? = some "10.0.0.2" ∧
      Schedule.crossing.calls.getLast? = some .last ∧
      Schedule.crossing.Interrupts .overtaken .last ∧
      (Schedule.crossing.run .initial).traceroute =
        ((Call.lostTrace "10.0.0.2").run .standard .initial).traceroute := by
  have hother : (Call.lostTrace "10.0.0.1").operation.target? = some "10.0.0.1" := by decide
  have htarget : (Call.lostTrace "10.0.0.2").operation.target? = some "10.0.0.2" := by decide
  have hends : Schedule.crossing.calls.getLast? = some .last := by decide
  refine ⟨hother, htarget, hends, by decide, ?_⟩
  apply (traceroute_eq_alone_iff hother htarget .crossing hends .initial).mpr
  exact Or.inr (Or.inr (Or.inr ⟨by decide, by decide⟩))

/-- A trace that finds a hop while another one, which fails in the end, is under way. -/
def Schedule.overtaking :
    Schedule fun rival =>
      (Rival.call .shortTrace (.lostTrace "10.0.0.2") rival).sections .standard where
  events :=
    [(.last, Dashboard.awaitTrace "10.0.0.2"),
     (.overtaken, Dashboard.awaitTrace "10.0.0.1"),
     (.overtaken, Dashboard.showTrace "10.0.0.1" (Call.shortTrace.traced "10.0.0.1")),
     (.last, Dashboard.showTrace "10.0.0.2" (.error (.transport ⟨.unsent, ""⟩)))]
  sectionsOf_events rival := by cases rival <;> rfl

/-- The last trace fails, and is shown as failed beside the target and the hop of the other one. -/
theorem traceroute_ne_alone_overtaking :
    Schedule.overtaking.calls.getLast? = some .last ∧
      (Schedule.overtaking.run .initial).traceroute ≠
        ((Call.lostTrace "10.0.0.2").run .standard .initial).traceroute ∧
      (Schedule.overtaking.run .initial).traceroute.target = "10.0.0.1" ∧
      (Schedule.overtaking.run .initial).traceroute.summary = "Traceroute: failed" ∧
      (Schedule.overtaking.run .initial).traceroute.rows.length = 1 := by
  decide

end MeshConsole
