import MeshConsole.Dashboard.Load

/-!
# Branches that may stop for an answer

A branch goes on as long as its requests are answered. Where one is not, it stops, and what it has
written by then stays. The three ways in which a session runs a branch differ only in the answers
that there are:

    run       what the node delivers, and all failures before a request is sent
    advance   failures before a request is sent
    resume    as for a run, from the request that the branch waits for

So what each of them leaves is `Branch.reached`, for answers of its own.
-/

namespace MeshConsole

/-- What comes back without the node having been asked. -/
def Delivery.refusal? : Delivery → Option Exchange
  | .undelivered fault => some (.error fault)
  | .delivered _ => none
  | .silent => none

namespace Branch

/-- The dashboard that a branch reaches with the answers that there are. -/
def reached (answer? : Endpoint → Option Exchange) : Branch → Dashboard → Dashboard
  | done, dashboard => dashboard
  | write update next, dashboard => next.reached answer? (update dashboard)
  | ask endpoint next, dashboard =>
    match answer? endpoint with
    | some exchange => (next exchange).reached answer? dashboard
    | none => dashboard

/-- A branch waits for a request that comes after writes, and after requests that were refused. -/
inductive Suspends : Branch → Pending → Prop
  | ask {endpoint : Endpoint} {next : Exchange → Branch} :
      Suspends (.ask endpoint next) ⟨endpoint, next⟩
  | write {update : Dashboard → Dashboard} {next : Branch} {pending : Pending} :
      Suspends next pending → Suspends (.write update next) pending
  | refused {endpoint : Endpoint} {next : Exchange → Branch} {pending : Pending} (fault : Fault) :
      Suspends (next (.error fault)) pending → Suspends (.ask endpoint next) pending

/-- A branch that makes no request once its first one is refused waits for no other one. -/
theorem Suspends.eq_ask {endpoint : Endpoint} {next : Exchange → Branch} {pending : Pending}
    (h : (Branch.ask endpoint next).Suspends pending)
    (hends : ∀ fault, ∃ update, next (.error fault) = .write update .done ∨
      next (.error fault) = .done) : pending = ⟨endpoint, next⟩ := by
  cases h with
  | ask => rfl
  | refused fault hnext =>
      obtain ⟨update, hnone | hnone⟩ := hends fault
      · rw [hnone] at hnext
        cases hnext with
        | write hdone => cases hdone
      · rw [hnone] at hnext
        cases hnext

/-- Every write of a branch leaves a part of the dashboard as it is. -/
inductive Keeps {α : Type} (view : Dashboard → α) : Branch → Prop
  | done : Keeps view .done
  | write {update : Dashboard → Dashboard} {next : Branch} :
      (∀ dashboard, view (update dashboard) = view dashboard) → Keeps view next →
      Keeps view (.write update next)
  | ask {endpoint : Endpoint} {next : Exchange → Branch} :
      (∀ exchange, Keeps view (next exchange)) → Keeps view (.ask endpoint next)

/-- What every write leaves is left wherever the branch stops. -/
theorem Keeps.reached_eq {α : Type} {view : Dashboard → α} {branch : Branch}
    (h : branch.Keeps view) (answer? : Endpoint → Option Exchange) (dashboard : Dashboard) :
    view (branch.reached answer? dashboard) = view dashboard := by
  induction h generalizing dashboard with
  | done => rfl
  | write hupdate _ ih => exact (ih _).trans (hupdate dashboard)
  | ask _ ih =>
      rw [Branch.reached]
      split
      · exact ih _ dashboard
      · rfl

variable {deliver : Endpoint → Delivery}

theorem dashboard_run (branch : Branch) (dashboard : Dashboard) :
    (branch.run deliver dashboard).dashboard =
      branch.reached (fun endpoint => (deliver endpoint).exchange?) dashboard := by
  induction branch generalizing dashboard with
  | done => rfl
  | write update next ih => exact ih (update dashboard)
  | ask endpoint next ih =>
      unfold run reached
      cases deliver endpoint with
      | undelivered fault => exact ih (.error fault) dashboard
      | delivered exchange => exact ih exchange dashboard
      | silent => rfl

theorem dashboard_advance (branch : Branch) (dashboard : Dashboard) :
    (branch.advance deliver dashboard).1 =
      branch.reached (fun endpoint => (deliver endpoint).refusal?) dashboard := by
  induction branch generalizing dashboard with
  | done => rfl
  | write update next ih => exact ih (update dashboard)
  | ask endpoint next ih =>
      unfold advance reached
      cases deliver endpoint with
      | undelivered fault => exact ih (.error fault) dashboard
      | delivered exchange => rfl
      | silent => rfl

theorem suspends_of_advance {branch : Branch} {dashboard : Dashboard} {pending : Pending}
    (h : (branch.advance deliver dashboard).2 = some pending) : branch.Suspends pending := by
  induction branch generalizing dashboard with
  | done => cases h
  | write update next ih => exact .write (ih h)
  | ask endpoint next ih =>
      unfold advance at h
      cases hdeliver : deliver endpoint with
      | undelivered fault =>
          rw [hdeliver] at h
          exact .refused fault (ih _ h)
      | delivered exchange =>
          rw [hdeliver] at h
          cases h
          exact .ask
      | silent =>
          rw [hdeliver] at h
          cases h
          exact .ask

theorem dashboard_resume (pending : Pending) (dashboard : Dashboard) :
    (pending.resume deliver dashboard).dashboard =
      (ask pending.endpoint pending.next).reached (fun endpoint => (deliver endpoint).exchange?)
        dashboard := by
  unfold Pending.resume reached
  cases deliver pending.endpoint with
  | undelivered fault => exact dashboard_run _ dashboard
  | delivered exchange => exact dashboard_run _ dashboard
  | silent => rfl

theorem dashboard_runAll (branches : List Branch) (dashboard : Dashboard) :
    (runAll deliver branches dashboard).dashboard =
      branches.foldl
        (fun dashboard branch =>
          branch.reached (fun endpoint => (deliver endpoint).exchange?) dashboard)
        dashboard := by
  induction branches generalizing dashboard with
  | nil => rfl
  | cons branch branches ih =>
      unfold runAll
      dsimp only
      rw [ih, dashboard_run]
      rfl

end Branch

/-- A full load loads its parts one after the other if there is an answer about the capabilities,
and nothing if there is none. -/
theorem Dashboard.dashboard_loadAll (deliver : Endpoint → Delivery) (thresholds : Thresholds)
    (order : LoadOrder) (dashboard : Dashboard) :
    (dashboard.loadAll deliver thresholds order).dashboard =
      if (deliver .capabilities).exchange?.isSome then
        order.parts.foldl
          (fun dashboard part =>
            (part.branch thresholds).reached (fun endpoint => (deliver endpoint).exchange?)
              dashboard)
          (Branch.loadCapabilities.reached (fun endpoint => (deliver endpoint).exchange?) dashboard)
      else dashboard := by
  have hfirst : ((Branch.loadCapabilities.run deliver dashboard).finished =
      (deliver .capabilities).exchange?.isSome) := by
    unfold Branch.loadCapabilities Branch.run
    cases deliver .capabilities <;> rfl
  unfold loadAll
  dsimp only
  rw [hfirst]
  split
  · dsimp only
    rw [Branch.dashboard_runAll, Branch.dashboard_run, List.foldl_map]
  · next hsilent =>
      rw [Branch.dashboard_run]
      unfold Branch.loadCapabilities Branch.reached
      cases h : (deliver .capabilities).exchange? with
      | none => rfl
      | some exchange => exact absurd (by rw [h]; rfl) hsilent

end MeshConsole
