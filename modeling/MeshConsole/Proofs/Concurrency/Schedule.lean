import Mathlib.Data.List.Dedup
import Mathlib.Data.Set.Insert

/-!
# Schedules of atomic sections

A call works on a shared state in atomic sections. A schedule merges the sections of several calls
into one sequence and keeps the order of each call's own sections; running it applies one section
after the other. The serial run of a schedule applies the calls one at a time instead, in the order
in which they come to their end:

    schedule       A₁ B₁ B₂ C₁ A₂ C₂
    serial run     B₁ B₂ A₁ A₂ C₁ C₂

The two agree if a `Simulation` relates them: a relation between the state of the serial run, which
has seen the calls that have ended, and the state of the schedule, which has also seen the first
sections of the calls that have begun (`Simulation.run_eq_serial`). Nothing here is about a
particular state or particular calls.
-/

namespace MeshConsole

variable {ι σ : Type}

/-- Applies sections one after the other. -/
def runSections (sections : List (σ → σ)) (state : σ) : σ :=
  sections.foldl (fun state update => update state) state

@[simp] theorem runSections_nil (state : σ) : runSections [] state = state := rfl

@[simp] theorem runSections_cons (update : σ → σ) (sections : List (σ → σ)) (state : σ) :
    runSections (update :: sections) state = runSections sections (update state) := rfl

/-- Applies calls one at a time. -/
def runCalls (sections : ι → List (σ → σ)) (calls : List ι) (state : σ) : σ :=
  calls.foldl (fun state call => runSections (sections call) state) state

@[simp] theorem runCalls_nil (sections : ι → List (σ → σ)) (state : σ) :
    runCalls sections [] state = state := rfl

@[simp] theorem runCalls_cons (sections : ι → List (σ → σ)) (call : ι) (calls : List ι)
    (state : σ) :
    runCalls sections (call :: calls) state =
      runCalls sections calls (runSections (sections call) state) := rfl

/-- Calls without sections can be left out. -/
theorem runCalls_filter (sections : ι → List (σ → σ)) (calls : List ι) (state : σ) :
    runCalls sections (calls.filter fun call => sections call ≠ []) state =
      runCalls sections calls state := by
  induction calls generalizing state with
  | nil => rfl
  | cons call calls ih =>
      by_cases h : sections call = []
      · rw [List.filter_cons_of_neg (by simp [h]), ih, runCalls_cons, h, runSections_nil]
      · rw [List.filter_cons_of_pos (by simp [h]), runCalls_cons, runCalls_cons, ih]

variable [DecidableEq ι]

/-- The sections of one call in a sequence of sections that are marked with their calls. -/
def sectionsOf (call : ι) (events : List (ι × (σ → σ))) : List (σ → σ) :=
  (events.filter fun event => event.1 = call).map Prod.snd

@[simp] theorem sectionsOf_nil (call : ι) :
    sectionsOf call ([] : List (ι × (σ → σ))) = [] := rfl

@[simp] theorem sectionsOf_cons_self (call : ι) (update : σ → σ) (events : List (ι × (σ → σ))) :
    sectionsOf call ((call, update) :: events) = update :: sectionsOf call events := by
  simp [sectionsOf]

theorem sectionsOf_cons_of_ne {call other : ι} (h : other ≠ call) (update : σ → σ)
    (events : List (ι × (σ → σ))) :
    sectionsOf call ((other, update) :: events) = sectionsOf call events := by
  simp [sectionsOf, h]

theorem sectionsOf_eq_nil_iff {call : ι} {events : List (ι × (σ → σ))} :
    sectionsOf call events = [] ↔ call ∉ events.map Prod.fst := by
  simp only [sectionsOf, List.map_eq_nil_iff, List.filter_eq_nil_iff, decide_eq_true_eq,
    List.mem_map, not_exists, not_and]

/-! ## Which call ends first -/

/-- There is a moment when the first of two calls has ended and the second one has not. -/
def EndsBefore (first second : ι) (calls : List ι) : Prop :=
  ∃ earlier later, calls = earlier ++ later ∧ first ∈ earlier ∧ first ∉ later ∧ second ∈ later

theorem endsBefore_cons_iff {first second call : ι} {calls : List ι} :
    EndsBefore first second (call :: calls) ↔
      EndsBefore first second calls ∨ first = call ∧ call ∉ calls ∧ second ∈ calls := by
  constructor
  · rintro ⟨earlier, later, heq, hfirst, hnone, hsecond⟩
    cases earlier with
    | nil => cases hfirst
    | cons head earlier =>
        obtain ⟨rfl, rfl⟩ := List.cons.inj heq
        by_cases hmem : first ∈ earlier
        · exact Or.inl ⟨earlier, later, rfl, hmem, hnone, hsecond⟩
        · -- The head is the last section of the first call.
          right
          obtain rfl := (List.mem_cons.mp hfirst).resolve_right hmem
          refine ⟨rfl, ?_, List.mem_append_right earlier hsecond⟩
          exact fun h => (List.mem_append.mp h).elim hmem hnone
  · rintro (⟨earlier, later, rfl, hfirst, hnone, hsecond⟩ | ⟨rfl, hnone, hsecond⟩)
    · exact ⟨call :: earlier, later, rfl, List.mem_cons_of_mem call hfirst, hnone, hsecond⟩
    · exact ⟨[first], calls, rfl, List.mem_singleton_self first, hnone, hsecond⟩

/-- The order of last occurrences is the order in which calls end. -/
theorem pair_sublist_dedup_iff {first second : ι} {calls : List ι} :
    [first, second].Sublist calls.dedup ↔ EndsBefore first second calls := by
  induction calls with
  | nil =>
      constructor
      · intro h
        cases h
      · rintro ⟨earlier, later, heq, hfirst, -⟩
        rw [(List.append_eq_nil_iff.mp heq.symm).1] at hfirst
        cases hfirst
  | cons call calls ih =>
      rw [endsBefore_cons_iff, ← ih]
      by_cases hmem : call ∈ calls
      · rw [List.dedup_cons_of_mem hmem]
        exact ⟨Or.inl, fun h => h.resolve_right fun hends => hends.2.1 hmem⟩
      · rw [List.dedup_cons_of_notMem hmem]
        constructor
        · intro h
          cases h with
          | cons _ h => exact Or.inl h
          | cons_cons _ h =>
              exact Or.inr ⟨rfl, hmem, List.mem_dedup.mp (List.singleton_sublist.mp h)⟩
        · rintro (h | ⟨rfl, -, hsecond⟩)
          · exact h.cons call
          · have hlater : second ∈ calls.dedup := List.mem_dedup.mpr hsecond
            exact (List.singleton_sublist.mpr hlater).cons_cons first

/-! ## Schedules -/

/-- A merge of the sections of all calls that keeps the order of each call's own sections. -/
structure Schedule (sections : ι → List (σ → σ)) where
  events : List (ι × (σ → σ))
  sectionsOf_events : ∀ call, sectionsOf call events = sections call

namespace Schedule

variable {sections : ι → List (σ → σ)} (schedule : Schedule sections)

/-- The state after all sections of a schedule. -/
def run (state : σ) : σ := schedule.events.foldl (fun state event => event.2 state) state

/-- The calls that the sections of a schedule belong to, in their order. -/
def calls : List ι := schedule.events.map Prod.fst

/-- The calls in the order of their last sections. -/
def completionOrder : List ι := schedule.calls.dedup

/-- A section of `other` lies between two sections of `call`. -/
def Interrupts (other call : ι) : Prop := [call, other, call].Sublist schedule.calls

instance (other call : ι) : Decidable (schedule.Interrupts other call) :=
  inferInstanceAs (Decidable ([call, other, call].Sublist schedule.calls))

theorem nodup_completionOrder : schedule.completionOrder.Nodup := List.nodup_dedup _

/-- The calls stand in the order in which they come to their ends. -/
theorem pairwise_completionOrder :
    schedule.completionOrder.Pairwise fun first second => EndsBefore first second schedule.calls :=
  List.pairwise_iff_forall_sublist.mpr pair_sublist_dedup_iff.mp

/-- A call with at least one section has its place among the others. -/
theorem mem_completionOrder {call : ι} :
    call ∈ schedule.completionOrder ↔ sections call ≠ [] := by
  rw [completionOrder, List.mem_dedup, ← schedule.sectionsOf_events call, calls, ne_eq,
    sectionsOf_eq_nil_iff, not_not]

theorem count_calls (call : ι) : schedule.calls.count call = (sections call).length := by
  rw [← schedule.sectionsOf_events call, sectionsOf, List.length_map, calls, List.count,
    List.countP_map, List.countP_eq_length_filter]
  congr 1

/-- Of two calls with a place in the order, one comes to its end before the other. -/
theorem completionOrder_total {first second : ι} (hne : first ≠ second)
    (hfirst : first ∈ schedule.completionOrder) (hsecond : second ∈ schedule.completionOrder) :
    [first, second].Sublist schedule.completionOrder ∨
      [second, first].Sublist schedule.completionOrder := by
  obtain ⟨before, after, heq⟩ := List.append_of_mem hfirst
  rw [heq] at hsecond ⊢
  rcases List.mem_append.mp hsecond with hbefore | hafter
  · right
    exact (List.singleton_sublist.mpr hbefore).append
      (List.singleton_sublist.mpr List.mem_cons_self)
  · left
    have hmem : second ∈ after := (List.mem_cons.mp hafter).resolve_left (Ne.symm hne)
    exact ((List.singleton_sublist.mpr hmem).cons_cons first).trans
      (List.sublist_append_right before (first :: after))

/-- A call of one section that takes its turn before a section of another call comes to its end before
that call. -/
theorem sublist_completionOrder {first second : ι} (hone : (sections first).length ≤ 1)
    (h : [first, second].Sublist schedule.calls) :
    [first, second].Sublist schedule.completionOrder := by
  obtain ⟨earlier, later, heq, hfirst, hsecond⟩ := List.cons_sublist_iff.mp h
  refine pair_sublist_dedup_iff.mpr
    ⟨earlier, later, heq, hfirst, ?_, List.singleton_sublist.mp hsecond⟩
  -- The one section of the first call is among the earlier ones.
  rw [← schedule.count_calls first, heq, List.count_append] at hone
  have hpos : 0 < earlier.count first := List.count_pos_iff.mpr hfirst
  exact List.count_eq_zero.mp (by omega)

end Schedule

/-! ## Progress of a schedule -/

/-- No other exclusive call has begun when an exclusive call takes its turn. -/
def Alone (exclusive : ι → Prop) (begun : Set ι) (call : ι) : Prop :=
  exclusive call → ∀ other ∈ begun, exclusive other → other = call

/-- Where a schedule stands: `done call` are the sections of a call that have run, the calls in
`begun` have begun and not ended, and `events` is what is left. No exclusive call will be interrupted
by another one, whether it has begun or not. -/
structure Progress (sections : ι → List (σ → σ)) (exclusive : ι → Prop)
    (done : ι → List (σ → σ)) (begun : Set ι) (events : List (ι × (σ → σ))) : Prop where
  sections_eq : ∀ call, sections call = done call ++ sectionsOf call events
  mem_begun : ∀ call, call ∈ begun ↔ done call ≠ [] ∧ sectionsOf call events ≠ []
  apart : ∀ call other, exclusive call → exclusive other → other ≠ call →
    ¬ [call, other, call].Sublist (events.map Prod.fst)
  free : ∀ call other, exclusive call → exclusive other → other ≠ call → call ∈ begun →
    ¬ [other, call].Sublist (events.map Prod.fst)

namespace Progress

variable {sections : ι → List (σ → σ)} {exclusive : ι → Prop} {done : ι → List (σ → σ)}
  {begun : Set ι} {call : ι} {update : σ → σ} {rest : List (ι × (σ → σ))}

/-- Nothing has begun at the beginning. -/
theorem start (schedule : Schedule sections)
    (hapart : ∀ call other, exclusive call → exclusive other → other ≠ call →
      ¬ schedule.Interrupts other call) :
    Progress sections exclusive (fun _ => []) ∅ schedule.events where
  sections_eq call := by rw [List.nil_append, schedule.sectionsOf_events]
  mem_begun call := by simp
  apart := hapart
  free call _ _ _ _ hmem := absurd hmem (Set.notMem_empty call)

/-- Everything has ended at the end. -/
theorem begun_eq_empty (h : Progress sections exclusive done begun []) : begun = ∅ := by
  ext call
  simp [h.mem_begun]

/-- The sections of the call whose turn it is. -/
theorem sections_turn (h : Progress sections exclusive done begun ((call, update) :: rest)) :
    sections call = done call ++ update :: sectionsOf call rest := by
  rw [h.sections_eq call, sectionsOf_cons_self]

/-- An exclusive call that takes its turn is alone: another one that has begun would still have a
section to come, and would be interrupted. -/
theorem alone (h : Progress sections exclusive done begun ((call, update) :: rest)) :
    Alone exclusive begun call := by
  intro hcall other hmem hother
  by_contra hne
  have hleft : sectionsOf other ((call, update) :: rest) ≠ [] := ((h.mem_begun other).mp hmem).2
  rw [sectionsOf_cons_of_ne (Ne.symm hne)] at hleft
  have hlater : other ∈ rest.map Prod.fst := by
    by_contra hnone
    exact hleft (sectionsOf_eq_nil_iff.mpr hnone)
  apply h.free other call hother hcall (Ne.symm hne) hmem
  exact (List.singleton_sublist.mpr hlater).cons_cons call

/-- After a turn the section counts among those that have run. -/
theorem sections_eq_update (h : Progress sections exclusive done begun ((call, update) :: rest))
    (other : ι) :
    sections other =
      Function.update done call (done call ++ [update]) other ++ sectionsOf other rest := by
  by_cases hne : other = call
  · subst hne
    simp [h.sections_turn]
  · rw [Function.update_of_ne hne, h.sections_eq other, sectionsOf_cons_of_ne (Ne.symm hne)]

/-- A call that takes its last turn has ended. -/
theorem turn_last (h : Progress sections exclusive done begun ((call, update) :: rest))
    (hlast : sectionsOf call rest = []) :
    Progress sections exclusive (Function.update done call (done call ++ [update]))
      (begun \ {call}) rest where
  sections_eq := h.sections_eq_update
  mem_begun other := by
    by_cases hne : other = call
    · subst hne
      simp [hlast]
    · rw [Function.update_of_ne hne, ← sectionsOf_cons_of_ne (Ne.symm hne) update rest]
      simp [hne, h.mem_begun other]
  apart first second hfirst hsecond hne hsub :=
    h.apart first second hfirst hsecond hne (hsub.cons call)
  free first second hfirst hsecond hne hmem hsub :=
    h.free first second hfirst hsecond hne hmem.1 (hsub.cons call)

/-- A call that takes a turn before its last one has begun. -/
theorem turn_inner (h : Progress sections exclusive done begun ((call, update) :: rest))
    (hmore : sectionsOf call rest ≠ []) :
    Progress sections exclusive (Function.update done call (done call ++ [update]))
      (insert call begun) rest where
  sections_eq := h.sections_eq_update
  mem_begun other := by
    by_cases hne : other = call
    · subst hne
      simp [hmore]
    · rw [Function.update_of_ne hne, ← sectionsOf_cons_of_ne (Ne.symm hne) update rest]
      simp [hne, h.mem_begun other]
  apart first second hfirst hsecond hne hsub :=
    h.apart first second hfirst hsecond hne (hsub.cons call)
  free first second hfirst hsecond hne hmem hsub := by
    rcases hmem with rfl | hmem
    · exact h.apart first second hfirst hsecond hne (hsub.cons_cons first)
    · exact h.free first second hfirst hsecond hne hmem (hsub.cons call)

end Progress

/-! ## Simulation by the serial run -/

/-- `lag begun serial actual` says how the state of a schedule may differ from that of the serial
run while the calls in `begun` have begun and not ended. The serial run stands still at a section
that is not the last one of its call, and makes up for the whole call at its last section. -/
structure Simulation (sections : ι → List (σ → σ)) (exclusive : ι → Prop)
    (lag : Set ι → σ → σ → Prop) : Prop where
  start : ∀ state, lag ∅ state state
  finish : ∀ {serial actual}, lag ∅ serial actual → actual = serial
  inner : ∀ {begun call before update after serial actual},
    sections call = before ++ update :: after → after ≠ [] → Alone exclusive begun call →
    lag begun serial actual → lag (insert call begun) serial (update actual)
  last : ∀ {begun call before update serial actual},
    sections call = before ++ [update] → (call ∈ begun ↔ before ≠ []) →
    Alone exclusive begun call → lag begun serial actual →
    lag (begun \ {call}) (runSections (sections call) serial) (update actual)

namespace Simulation

variable {sections : ι → List (σ → σ)} {exclusive : ι → Prop} {lag : Set ι → σ → σ → Prop}

/-- The rest of a schedule, run from a state that lags behind, leaves what the calls that have not
ended leave when they are run one at a time. -/
theorem run_events (simulation : Simulation sections exclusive lag)
    (events : List (ι × (σ → σ))) {done : ι → List (σ → σ)} {begun : Set ι} {serial actual : σ}
    (hprogress : Progress sections exclusive done begun events)
    (hlag : lag begun serial actual) :
    events.foldl (fun state event => event.2 state) actual =
      runCalls sections (events.map Prod.fst).dedup serial := by
  induction events generalizing done begun serial actual with
  | nil =>
      rw [hprogress.begun_eq_empty] at hlag
      exact simulation.finish hlag
  | cons event rest ih =>
      obtain ⟨call, update⟩ := event
      have hsections := hprogress.sections_turn
      by_cases hlast : sectionsOf call rest = []
      · -- The call ends here: the serial run makes up for all of it.
        rw [hlast] at hsections
        have hbegun : call ∈ begun ↔ done call ≠ [] := by
          rw [hprogress.mem_begun call, sectionsOf_cons_self]
          simp
        rw [List.map_cons, List.dedup_cons_of_notMem (sectionsOf_eq_nil_iff.mp hlast),
          runCalls_cons, List.foldl_cons]
        exact ih (hprogress.turn_last hlast)
          (simulation.last hsections hbegun hprogress.alone hlag)
      · -- The call goes on later: the serial run waits.
        have hlater : call ∈ rest.map Prod.fst := by
          by_contra hnone
          exact hlast (sectionsOf_eq_nil_iff.mpr hnone)
        rw [List.map_cons, List.dedup_cons_of_mem hlater, List.foldl_cons]
        exact ih (hprogress.turn_inner hlast)
          (simulation.inner hsections hlast hprogress.alone hlag)

/-- A schedule in which no exclusive call interrupts another leaves what its serial run leaves. -/
theorem run_eq_serial (simulation : Simulation sections exclusive lag)
    (schedule : Schedule sections)
    (hapart : ∀ call other, exclusive call → exclusive other → other ≠ call →
      ¬ schedule.Interrupts other call)
    (state : σ) :
    schedule.run state = runCalls sections schedule.completionOrder state :=
  simulation.run_events schedule.events (.start schedule hapart) (simulation.start state)

end Simulation

end MeshConsole
