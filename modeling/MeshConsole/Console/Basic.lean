import MeshConsole.Console.Action
import MeshConsole.Dashboard.Document
import MeshConsole.Page.Basic

/-!
# The console

The console watches one node. It keeps a dashboard, changes it by the actions of the operator, and
answers each action with a page, with a document, or with the address of the page that shows what
has come of it.
-/

namespace MeshConsole

/-- A console: the node it watches, the thresholds of the frequency warning, and its dashboard. -/
structure Console where
  node : Node
  thresholds : Thresholds
  dashboard : Dashboard

/-- The address of the page that shows a tab. -/
def Tab.location (tab : Tab) : String := "/?tab=" ++ tab.id

namespace Console

/-- A console that has loaded nothing. -/
def initial (node : Node) (thresholds : Thresholds) : Console := ⟨node, thresholds, .initial⟩

/-- Runs a branch on the dashboard. -/
def runBranch (console : Console) (branch : Branch) : Run :=
  branch.run console.node.deliver console.dashboard

/-- Loads one part of the dashboard. -/
def load (console : Console) (part : Part) : Run :=
  console.runBranch (part.branch console.thresholds)

/-- Loads everything. -/
def loadAll (console : Console) (order : LoadOrder) : Run :=
  console.dashboard.loadAll console.node.deliver console.thresholds order

/-- Leaves the dashboard as it is. -/
def idle (console : Console) : Run := ⟨console.dashboard, [], true⟩

/-- What an action does to the dashboard. -/
def perform (console : Console) (order : LoadOrder) : Action → Run
  | .page _ | .document => console.idle
  | .refresh => console.loadAll order
  | .refreshConnections => console.load .connections
  | .refreshVersions => console.load .versions
  | .trace target => console.runBranch (.traceTo target)
  | .sort table key => ⟨console.dashboard.sort table key, [], true⟩

/-- The response to an action. A page and a document show the dashboard as it is. -/
def respond (dashboard : Dashboard) : Action → Response
  | .page tab => .html (dashboard.page tab).render
  | .document => .json dashboard.document.compact
  | .refresh => .redirect "/"
  | .refreshConnections => .redirect Tab.connections.location
  | .refreshVersions => .redirect Tab.versions.location
  | .trace _ => .redirect Tab.traceroute.location
  | .sort table _ => .redirect (Tab.ofTable table).location

/-- Handles a request: what it does to the dashboard, and the response. The response to a `HEAD`
request has no body. -/
def handle (console : Console) (order : LoadOrder) (request : Request) : Run × Response :=
  let (run, response) := match Action.ofRequest request with
    | .error refusal => (console.idle, refusal.response)
    | .ok action => (console.perform order action, respond console.dashboard action)
  (run, if request.method = "HEAD" then response.withoutBody else response)

end Console

end MeshConsole
