import MeshConsole.Dashboard.Load
import MeshConsole.Http.Message
import MeshConsole.Tab
import MeshConsole.Url.Form

/-!
# What the operator asks for

The browser of the operator sends requests; each that is in order stands for an action. A request
that is not in order is refused, and nothing else comes of it.

    Request ──ofRequest──▶ Except Refusal Action

    GET   /                        the page, with an optional `tab`
    GET   /api/dashboard           the document
    POST  /refresh                 load everything
    POST  /refresh/connections     load the connections
    POST  /refresh/versions        load the versions
    GET   /traceroute              run a trace to `target`
    GET   /tables/NAME/sort        sort the named table by `key`

Where `GET` is understood, `HEAD` is too. The method is looked at before anything else, then the
path, then the query, and the name of the table at last.
-/

namespace MeshConsole

/-- Why a request is refused. -/
inductive Refusal where
  /-- There is nothing under this path. -/
  | unknownPath
  /-- The path is known, but not for this method. -/
  | wrongMethod
  /-- The name of the table is not UTF-8. -/
  | undecodable
  /-- A parameter is given more than once. -/
  | repeated (parameter : String)
  /-- There is no such table. -/
  | unknownTable
deriving Repr, DecidableEq

/-- The response to a request that is refused. -/
def Refusal.response : Refusal → Response
  | unknownPath => .bare .notFound
  | wrongMethod => .bare ⟨405, by decide⟩
  | undecodable => .plain ⟨400, by decide⟩ "Invalid URL: Invalid UTF-8 in \x60table\x60"
  | repeated parameter =>
    .plain ⟨400, by decide⟩
      ("Failed to deserialize query string: duplicate field \x60" ++ parameter ++ "\x60")
  | unknownTable => .plain .notFound "Unknown table"

/-- What the operator asks for. -/
inductive Action where
  | page (tab : Option String)
  | document
  | refresh
  | refreshConnections
  | refreshVersions
  | trace (target : String)
  | sort (table : TableId) (key : String)
deriving Repr, DecidableEq

/-- What lies under a path. The name of a table is still percent coded. -/
inductive Resource where
  | page
  | document
  | refresh
  | refreshConnections
  | refreshVersions
  | trace
  | sort (name : List Char)
deriving Repr, DecidableEq

namespace Resource

/-- The resource of a path. -/
def ofPath? (path : List Char) : Option Resource :=
  match (Text.splitOn (· == '/') path).map String.ofList with
  | ["", ""] => some .page
  | ["", "api", "dashboard"] => some .document
  | ["", "refresh"] => some .refresh
  | ["", "refresh", "connections"] => some .refreshConnections
  | ["", "refresh", "versions"] => some .refreshVersions
  | ["", "traceroute"] => some .trace
  | ["", "tables", name, "sort"] => some (.sort name.toList)
  | _ => none

/-- Whether a resource is posted to. All others are fetched. -/
def isPosted : Resource → Bool
  | refresh | refreshConnections | refreshVersions => true
  | _ => false

/-- Whether a method is understood for a resource. -/
def allows (resource : Resource) (method : String) : Bool :=
  if resource.isPosted then method == "POST" else method == "GET" || method == "HEAD"

end Resource

/-- The value of a parameter; none if it is missing. -/
def parameter? (query : List Char) (name : String) : Except Refusal (Option String) :=
  match (Form.pairs query).filter fun pair => pair.1 == name with
  | [] => .ok none
  | [pair] => .ok (some pair.2)
  | _ => .error (.repeated name)

namespace Action

/-- The action on a resource. -/
def ofResource (query : List Char) : Resource → Except Refusal Action
  | .page => do
    let tab ← parameter? query "tab"
    .ok (.page (tab.filter fun tab => !tab.isEmpty))
  | .document => .ok .document
  | .refresh => .ok .refresh
  | .refreshConnections => .ok .refreshConnections
  | .refreshVersions => .ok .refreshVersions
  | .trace => do
    let target ← parameter? query "target"
    .ok (.trace (target.getD ""))
  | .sort name =>
    match Text.decode? (Percent.decode (Text.encode name)) with
    | none => .error .undecodable
    | some name => do
      let key ← parameter? query "key"
      match TableId.ofName? (String.ofList name) with
      | none => .error .unknownTable
      | some table => .ok (.sort table (key.getD ""))

/-- The action that a request stands for. -/
def ofRequest (request : Request) : Except Refusal Action :=
  match Resource.ofPath? request.target.path with
  | none => .error .unknownPath
  | some resource =>
    if resource.allows request.method then ofResource request.target.query resource
    else .error .wrongMethod

end Action

end MeshConsole
