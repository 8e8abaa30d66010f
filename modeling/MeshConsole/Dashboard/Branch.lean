import MeshConsole.Dashboard.Basic
import MeshConsole.Node.Delivery

/-!
# Branches of a load

A branch of a load is a sequence of two kinds of steps: it asks the node for something and goes on
with what comes back, or it writes to the dashboard. Writes are atomic, and nothing is held between
them, so any number of branches can be under way on one dashboard.

    Branch ──run──▶ the dashboard afterwards, the requests that the node received

A branch whose request is never answered does not finish.
-/

namespace MeshConsole

/-- A branch of a load. -/
inductive Branch where
  | done
  | write (update : Dashboard → Dashboard) (next : Branch)
  | ask (endpoint : Endpoint) (next : Exchange → Branch)

/-- What a run leaves behind: the dashboard, the requests that the node received in their order, and
whether the run came to its end. -/
structure Run where
  dashboard : Dashboard
  received : List Endpoint
  finished : Bool

namespace Branch

/-- Runs a branch from the given dashboard. -/
def run (deliver : Endpoint → Delivery) : Branch → Dashboard → Run
  | done, dashboard => ⟨dashboard, [], true⟩
  | write update next, dashboard => next.run deliver (update dashboard)
  | ask endpoint next, dashboard =>
    match deliver endpoint with
    | .undelivered fault => (next (.error fault)).run deliver dashboard
    | .delivered exchange =>
      let rest := (next exchange).run deliver dashboard
      { rest with received := endpoint :: rest.received }
    | .silent => ⟨dashboard, [endpoint], false⟩

/-- Runs branches one after the other. One that does not finish does not hold up those after it. -/
def runAll (deliver : Endpoint → Delivery) : List Branch → Dashboard → Run
  | [], dashboard => ⟨dashboard, [], true⟩
  | branch :: branches, dashboard =>
    let first := branch.run deliver dashboard
    let rest := runAll deliver branches first.dashboard
    ⟨rest.dashboard, first.received ++ rest.received, first.finished && rest.finished⟩

/-- The updates that a branch writes, in order, if every request is answered as given. -/
def updates (answer : Endpoint → Exchange) : Branch → List (Dashboard → Dashboard)
  | done => []
  | write update next => update :: next.updates answer
  | ask endpoint next => (next (answer endpoint)).updates answer

end Branch

/-- A request that the node has received and not yet answered, and how its branch goes on. -/
structure Pending where
  endpoint : Endpoint
  next : Exchange → Branch

/-- Runs a branch up to the first request that reaches the node. There is none if the branch comes
to its end before. -/
def Branch.advance (deliver : Endpoint → Delivery) :
    Branch → Dashboard → Dashboard × Option Pending
  | .done, dashboard => (dashboard, none)
  | .write update next, dashboard => next.advance deliver (update dashboard)
  | .ask endpoint next, dashboard =>
    match deliver endpoint with
    | .undelivered fault => (next (.error fault)).advance deliver dashboard
    | .delivered _ => (dashboard, some ⟨endpoint, next⟩)
    | .silent => (dashboard, some ⟨endpoint, next⟩)

/-- Runs a branch to its end from the answer to the request it waits for. The node received that
request earlier. -/
def Pending.resume (deliver : Endpoint → Delivery) (pending : Pending) (dashboard : Dashboard) :
    Run :=
  match deliver pending.endpoint with
  | .undelivered fault => (pending.next (.error fault)).run deliver dashboard
  | .delivered exchange => (pending.next exchange).run deliver dashboard
  | .silent => ⟨dashboard, [], false⟩

end MeshConsole
