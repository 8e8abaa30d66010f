import MeshConsole.Console.Basic

/-!
# Sessions

A session is a console at work: parts of the dashboard are loaded, tables are sorted, traces are run
and requests are handled, one step after the other, while the node may change its replies between
the steps. A branch can also be started in one step and finished in a later one; in between it waits
for the answer to the request that the node has received.

    Session ──step──▶ what came of the step, and the session afterwards
-/

namespace MeshConsole

/-- A console and the branches that wait for an answer, each under a name of its own. -/
structure Session where
  console : Console
  waiting : List (String × Pending)

/-- A branch that can be started by itself. -/
inductive Job where
  | load (part : Part)
  | trace (target : String)
deriving Repr, DecidableEq

/-- A step of a session. -/
inductive Step where
  /-- The node changes its replies. -/
  | rescript (changes : List (String × Option Reply))
  /-- Everything is loaded. -/
  | loadAll (order : LoadOrder)
  /-- A branch runs from its beginning to its end. -/
  | run (job : Job)
  /-- A table is sorted. -/
  | sort (table : TableId) (key : String)
  /-- A request is handled. -/
  | handle (order : LoadOrder) (request : Request)
  /-- A branch runs up to the first request that reaches the node. -/
  | start (name : String) (job : Job)
  /-- A branch that waits runs to its end. -/
  | finish (name : String)
deriving Repr, DecidableEq

/-- What a step has to say. -/
inductive Remark where
  | nothing
  | responded (response : Response)
  | waiting
  | ended
  | unknownName
deriving Repr, DecidableEq

/-- What came of a step: what it has to say, and the requests that the node received. -/
structure StepResult where
  remark : Remark
  received : List Endpoint
deriving Repr, DecidableEq

namespace Session

/-- A session in which nothing has happened. -/
def initial (node : Node) (thresholds : Thresholds) : Session :=
  ⟨.initial node thresholds, []⟩

/-- The session with another dashboard. -/
def withDashboard (session : Session) (dashboard : Dashboard) : Session :=
  { session with console.dashboard := dashboard }

/-- The branch of a job. -/
def branch (session : Session) : Job → Branch
  | .load part => part.branch session.console.thresholds
  | .trace target => .traceTo target

/-- What came of a run, and the session afterwards. -/
def afterRun (session : Session) (remark : Remark) (run : Run) : StepResult × Session :=
  (⟨remark, run.received⟩, session.withDashboard run.dashboard)

/-- Starts a branch under a name. -/
def start (session : Session) (name : String) (branch : Branch) : StepResult × Session :=
  let (dashboard, pending) := branch.advance session.console.node.deliver session.console.dashboard
  let session := session.withDashboard dashboard
  match pending with
  | none => (⟨.ended, []⟩, session)
  | some pending =>
    (⟨.waiting, [pending.endpoint]⟩, { session with waiting := (name, pending) :: session.waiting })

/-- Finishes the branch of a name. -/
def finish (session : Session) (name : String) : StepResult × Session :=
  match session.waiting.lookup name with
  | none => (⟨.unknownName, []⟩, session)
  | some pending =>
    { session with waiting := session.waiting.filter fun entry => entry.1 != name }.afterRun
      .nothing (pending.resume session.console.node.deliver session.console.dashboard)

/-- Takes one step. -/
def step (session : Session) : Step → StepResult × Session
  | .rescript changes =>
    (⟨.nothing, []⟩,
     { session with console.node.script := session.console.node.script.merge changes })
  | .loadAll order => session.afterRun .nothing (session.console.loadAll order)
  | .run job => session.afterRun .nothing (session.console.runBranch (session.branch job))
  | .sort table key =>
    (⟨.nothing, []⟩, session.withDashboard (session.console.dashboard.sort table key))
  | .handle order request =>
    let (run, response) := session.console.handle order request
    session.afterRun (.responded response) run
  | .start name job => session.start name (session.branch job)
  | .finish name => session.finish name

/-- Takes steps one after the other. -/
def steps (session : Session) (steps : List Step) : Session :=
  steps.foldl (fun session step => (session.step step).2) session

end Session

end MeshConsole
