import MeshConsole.Console.Basic
import MeshConsole.Proofs.Dashboard.Isolation
import MeshConsole.Proofs.Dashboard.Reached
import MeshConsole.Proofs.Session.History
import MeshConsole.Proofs.Text.Lines

/-!
# What a request changes

A request names a resource by its path, and nothing but the resource decides how far it can reach:

    refused                   ──▶ nothing
    /  and  /api/dashboard    ──▶ nothing
    /tables/NAME/sort         ──▶ the order of the rows of one table, and its remembered key
    /traceroute               ──▶ the trace
    /refresh/connections      ──▶ the connections
    /refresh/versions         ──▶ the versions

Whatever is checked is checked before anything is done: a status that says the request was at fault
is the response to a refusal and to nothing else (`isClientError_iff`). For the branches that load
something, it is enough that each of their writes keeps all other regions.
-/

namespace MeshConsole

/-- A status that says that the request was at fault. -/
def StatusCode.IsClientError (code : StatusCode) : Prop := 400 ≤ code.val ∧ code.val < 500

instance (code : StatusCode) : Decidable code.IsClientError :=
  inferInstanceAs (Decidable (400 ≤ code.val ∧ code.val < 500))

/-! ## Refusals -/

theorem Refusal.isClientError (refusal : Refusal) : refusal.response.status.IsClientError := by
  unfold StatusCode.IsClientError
  cases refusal <;> simp [response, Response.bare, Response.plain, StatusCode.notFound]

namespace Console

theorem not_isClientError_respond (dashboard : Dashboard) (action : Action) :
    ¬ (respond dashboard action).status.IsClientError := by
  unfold StatusCode.IsClientError
  cases action <;> simp [respond, Response.html, Response.json, Response.redirect, StatusCode.ok]

variable {console : Console} {order : LoadOrder} {request : Request}

theorem handle_of_refused {refusal : Refusal} (h : Action.ofRequest request = .error refusal) :
    console.handle order request =
      (console.idle, if request.method = "HEAD" then refusal.response.withoutBody
        else refusal.response) := by
  unfold handle
  rw [h]

theorem handle_of_accepted {action : Action} (h : Action.ofRequest request = .ok action) :
    console.handle order request =
      (console.perform order action,
        if request.method = "HEAD" then (respond console.dashboard action).withoutBody
        else respond console.dashboard action) := by
  unfold handle
  rw [h]

/-- The request is said to be at fault if and only if it is refused. -/
theorem isClientError_iff :
    (console.handle order request).2.status.IsClientError ↔
      ∃ refusal, Action.ofRequest request = .error refusal := by
  cases h : Action.ofRequest request with
  | error refusal =>
      rw [handle_of_refused h]
      refine ⟨fun _ => ⟨refusal, rfl⟩, fun _ => ?_⟩
      dsimp only
      split <;> exact refusal.isClientError
  | ok action =>
      rw [handle_of_accepted h]
      refine ⟨fun herror => ?_, fun ⟨refusal, hrefused⟩ => nomatch hrefused⟩
      dsimp only at herror
      split at herror <;> exact absurd herror (not_isClientError_respond _ _)

end Console

/-! ## From the path to the action -/

namespace Action

variable {request : Request} {action : Action} {resource : Resource}

/-- What a request for a trace stands for. -/
theorem ofRequest_trace (hmethod : request.method = "GET")
    (hpath : request.target.path = "/traceroute".toList) {target : String}
    (htarget : parameter? request.target.query "target" = .ok (some target)) :
    ofRequest request = .ok (.trace target) := by
  have hresource : Resource.ofPath? request.target.path = some .trace := by rw [hpath]; rfl
  have hallows : Resource.trace.allows request.method = true := by rw [hmethod]; rfl
  unfold ofRequest
  rw [hresource]
  dsimp only
  rw [if_pos hallows, ofResource, htarget]
  rfl

/-- What a request for the page stands for. An empty name asks for no tab. -/
theorem ofRequest_page (hmethod : request.method = "GET") (hpath : request.target.path = ['/'])
    {requested : Option String}
    (htab : parameter? request.target.query "tab" = .ok requested) :
    ofRequest request = .ok (.page (requested.filter fun tab => !tab.isEmpty)) := by
  have hresource : Resource.ofPath? request.target.path = some .page := by rw [hpath]; rfl
  have hallows : Resource.page.allows request.method = true := by rw [hmethod]; rfl
  unfold ofRequest
  rw [hresource]
  dsimp only
  rw [if_pos hallows, ofResource, htab]
  rfl

/-- An accepted request asks for an action on the resource of its path. -/
theorem ofResource_of_accepted (hpath : Resource.ofPath? request.target.path = some resource)
    (h : ofRequest request = .ok action) :
    ofResource request.target.query resource = .ok action := by
  unfold ofRequest at h
  rw [hpath] at h
  dsimp only at h
  split at h
  · exact h
  · cases h

variable {query : List Char}

theorem eq_page (h : ofResource query .page = .ok action) : ∃ tab, action = .page tab := by
  unfold ofResource at h
  cases htab : parameter? query "tab" with
  | error refusal =>
      rw [htab] at h
      cases h
  | ok tab =>
      rw [htab] at h
      cases h
      exact ⟨_, rfl⟩

theorem eq_trace (h : ofResource query .trace = .ok action) : ∃ target, action = .trace target := by
  unfold ofResource at h
  cases htarget : parameter? query "target" with
  | error refusal =>
      rw [htarget] at h
      cases h
  | ok target =>
      rw [htarget] at h
      cases h
      exact ⟨_, rfl⟩

/-- The table is the one whose name the path has, and the key is the one that the query has. -/
theorem eq_sort {name : List Char} (h : ofResource query (.sort name) = .ok action) :
    ∃ table key, Text.decode? (Percent.decode (Text.encode name)) = some table.name.toList ∧
      parameter? query "key" = .ok key ∧ action = .sort table (key.getD "") := by
  unfold ofResource at h
  dsimp only at h
  cases hname : Text.decode? (Percent.decode (Text.encode name)) with
  | none =>
      rw [hname] at h
      cases h
  | some decoded =>
      rw [hname] at h
      cases hkey : parameter? query "key" with
      | error refusal =>
          rw [hkey] at h
          cases h
      | ok key =>
          rw [hkey] at h
          cases htable : TableId.ofName? (String.ofList decoded) with
          | none =>
              simp only [htable] at h
              cases h
          | some table =>
              simp only [htable] at h
              cases h
              have hfound : table.name = String.ofList decoded := by
                simpa using List.find?_some htable
              exact ⟨table, key, by rw [hfound, String.toList_ofList], rfl, rfl⟩

end Action

/-- A path with three slashes and no more. -/
theorem Resource.ofPath?_sort {name : List Char} (h : '/' ∉ name) :
    ofPath? ("/tables/".toList ++ name ++ "/sort".toList) = some (.sort name) := by
  have hslash (front rest : List Char) : Text.splitOn (· == '/') (front ++ '/' :: rest) =
      Text.splitOn (· == '/') front ++ Text.splitOn (· == '/') rest :=
    Text.splitOn_append_cons rfl front rest
  have hname : Text.splitOn (· == '/') name = [name] :=
    Text.splitOn_of_forall fun c hc => beq_eq_false_iff_ne.mpr fun heq => h (heq ▸ hc)
  have hsplit : Text.splitOn (· == '/') ("/tables/".toList ++ name ++ "/sort".toList) =
      ["".toList, "tables".toList, name, "sort".toList] := by
    have hpath : "/tables/".toList ++ name ++ "/sort".toList =
        "/tables".toList ++ '/' :: (name ++ '/' :: "sort".toList) := by simp
    rw [hpath, hslash, hslash, hname]
    rfl
  unfold ofPath?
  rw [hsplit]
  simp

/-! ## Branches -/

namespace Branch

theorem keeps_traceTo (target : String) :
    (traceTo target).Keeps fun dashboard => { dashboard with traceroute := .initial } := by
  unfold traceTo
  dsimp only
  split
  · exact .write (fun _ => rfl) .done
  · refine .write (fun _ => rfl) (.ask fun exchange => .write (fun dashboard => ?_) .done)
    cases exchange.text <;> rfl

theorem keeps_loadConnections :
    loadConnections.Keeps fun dashboard => { dashboard with connections := ⟨"", []⟩ } := by
  refine .write (fun _ => rfl) (.ask fun exchange => .write (fun dashboard => ?_) .done)
  cases exchange.json (Option Connections) with
  | error failure => rfl
  | ok connections =>
      rw [Dashboard.showConnections_ok]

theorem keeps_loadVersions :
    loadVersions.Keeps fun dashboard => { dashboard with versions := ⟨"", none⟩ } := by
  refine .write (fun _ => rfl) (.ask fun exchange => .write (fun dashboard => ?_) .done)
  cases exchange.json Json <;> rfl

end Branch

/-- What every write keeps is as it was after a run. So where a dashboard can be restored from what
is kept, a run leaves the dashboard that is restored from what was there before. -/
theorem Branch.Keeps.run_eq {α : Type} {view : Dashboard → α} {branch : Branch}
    (h : branch.Keeps view) (restore : α → Dashboard → Dashboard)
    (hrestore : ∀ dashboard, restore (view dashboard) dashboard = dashboard)
    (deliver : Endpoint → Delivery) (dashboard : Dashboard) :
    (branch.run deliver dashboard).dashboard =
      restore (view dashboard) (branch.run deliver dashboard).dashboard := by
  have hkept : view (branch.run deliver dashboard).dashboard = view dashboard := by
    rw [dashboard_run]
    exact h.reached_eq _ dashboard
  rw [← hkept, hrestore]

/-- Sorting moves the rows of one table and remembers its key. -/
theorem Dashboard.sort_eq (dashboard : Dashboard) (id : TableId) (key : String) :
    ∃ rows, rows.Perm (dashboard.rows id) ∧
      dashboard.sort id key =
        { dashboard.withRows id rows with
          sortKeys := fun other => if other = id then some key else dashboard.sortKeys other } := by
  refine ⟨((dashboard.table id).sortBy key).rows, ?_, ?_⟩
  · exact (Table.isStableSort_sortBy id key (dashboard.rows id)).perm
  · cases id <;> rfl

/-! ## Requests -/

namespace Console

variable {console : Console} {order : LoadOrder} {request : Request}

/-- What all actions on a resource leave behind, and doing nothing too, is left behind by every
request under the path of the resource. -/
theorem handle_of_path {resource : Resource} {motive : Run → Prop}
    (hpath : Resource.ofPath? request.target.path = some resource) (hidle : motive console.idle)
    (haction : ∀ action, Action.ofResource request.target.query resource = .ok action →
      motive (console.perform order action)) :
    motive (console.handle order request).1 := by
  cases h : Action.ofRequest request with
  | error refusal =>
      rw [handle_of_refused h]
      exact hidle
  | ok action =>
      rw [handle_of_accepted h]
      exact haction action (Action.ofResource_of_accepted hpath h)

/-- A run that leaves all as it was, the node included. -/
def IsIdle (console : Console) (run : Run) : Prop :=
  run.dashboard = console.dashboard ∧ run.received = []

theorem isIdle_of_isClientError (h : (console.handle order request).2.status.IsClientError) :
    console.IsIdle (console.handle order request).1 := by
  obtain ⟨refusal, hrefused⟩ := isClientError_iff.mp h
  rw [handle_of_refused hrefused]
  exact ⟨rfl, rfl⟩

/-- The page and the document are made of what is there. -/
theorem isIdle_of_path (h : request.target.path ∈ ["/".toList, "/api/dashboard".toList]) :
    console.IsIdle (console.handle order request).1 := by
  rw [List.mem_cons, List.mem_singleton] at h
  rcases h with hpath | hpath
  · have hresource : Resource.ofPath? request.target.path = some .page := by rw [hpath]; rfl
    refine handle_of_path hresource ⟨rfl, rfl⟩ fun action haction => ?_
    obtain ⟨tab, rfl⟩ := Action.eq_page haction
    exact ⟨rfl, rfl⟩
  · have hresource : Resource.ofPath? request.target.path = some .document := by rw [hpath]; rfl
    refine handle_of_path hresource ⟨rfl, rfl⟩ fun action haction => ?_
    cases haction
    exact ⟨rfl, rfl⟩

/-- A request to sort that is not at fault sorts the table that its path names. -/
theorem handle_of_sort {name : List Char} (hname : '/' ∉ name)
    (hpath : request.target.path = "/tables/".toList ++ name ++ "/sort".toList)
    (hstatus : ¬ (console.handle order request).2.status.IsClientError) :
    ∃ table key, Text.decode? (Percent.decode (Text.encode name)) = some table.name.toList ∧
      parameter? request.target.query "key" = .ok key ∧
      (console.handle order request).1 =
        { console.idle with dashboard := console.dashboard.sort table (key.getD "") } := by
  cases haccepted : Action.ofRequest request with
  | error refusal => exact absurd (isClientError_iff.mpr ⟨refusal, haccepted⟩) hstatus
  | ok action =>
      have hresource : Resource.ofPath? request.target.path = some (.sort name) := by
        rw [hpath, Resource.ofPath?_sort hname]
      obtain ⟨table, key, htable, hkey, rfl⟩ :=
        Action.eq_sort (Action.ofResource_of_accepted hresource haccepted)
      refine ⟨table, key, htable, hkey, ?_⟩
      rw [handle_of_accepted haccepted]
      rfl

end Console

/-- **No stray effects.** A request that is said to be at fault leaves the dashboard as it was, with
all that is remembered beside the regions, and the node receives nothing; so does any request for
the page or for the document. A request to sort that is not at fault is one for a table that exists:
it moves the rows of that table, remembers the key, and the node receives nothing. A request for a
trace changes the trace at most, a refresh of the connections the connections, and a refresh of the
versions the versions, whatever the node answers and whether it answers or not. -/
theorem handle_effects (console : Console) (order : LoadOrder) (request : Request) :
    let before := console.dashboard
    let run := (console.handle order request).1
    let response := (console.handle order request).2
    let after := run.dashboard
    (response.status.IsClientError → after = before ∧ run.received = []) ∧
      (request.target.path ∈ ["/".toList, "/api/dashboard".toList] →
        after = before ∧ run.received = []) ∧
      (∀ name, '/' ∉ name →
        request.target.path = "/tables/".toList ++ name ++ "/sort".toList →
        ¬ response.status.IsClientError →
        run.received = [] ∧ ∃ table key rows,
          Text.decode? (Percent.decode (Text.encode name)) = some table.name.toList ∧
          parameter? request.target.query "key" = .ok key ∧
          rows.Perm (before.rows table) ∧
          after = { before.withRows table rows with
            sortKeys := fun other =>
              if other = table then some (key.getD "") else before.sortKeys other }) ∧
      (request.target.path = "/traceroute".toList →
        after = { before with traceroute := after.traceroute }) ∧
      (request.target.path = "/refresh/connections".toList →
        after = { before with connections := after.connections }) ∧
      (request.target.path = "/refresh/versions".toList →
        after = { before with versions := after.versions }) := by
  intro before run response after
  refine ⟨Console.isIdle_of_isClientError, Console.isIdle_of_path,
    fun name hname hpath hstatus => ?sorted, fun hpath => ?traced, fun hpath => ?connections,
    fun hpath => ?versions⟩
  case sorted =>
    obtain ⟨table, key, htable, hkey, hrun⟩ := Console.handle_of_sort hname hpath hstatus
    obtain ⟨rows, hperm, hsort⟩ := before.sort_eq table (key.getD "")
    refine ⟨?_, table, key, rows, htable, hkey, hperm, ?_⟩
    · show (console.handle order request).1.received = []
      rw [hrun]
      rfl
    · show (console.handle order request).1.dashboard = _
      rw [hrun, ← hsort]
  case traced =>
    have hresource : Resource.ofPath? request.target.path = some .trace := by rw [hpath]; rfl
    refine Console.handle_of_path (motive := fun run : Run =>
      run.dashboard = { before with traceroute := run.dashboard.traceroute }) hresource rfl
      fun action haction => ?_
    obtain ⟨target, rfl⟩ := Action.eq_trace haction
    have hrun : console.perform order (.trace target) =
        (Branch.traceTo target).run console.node.deliver before := rfl
    rw [hrun]
    exact (Branch.keeps_traceTo target).run_eq
      (fun kept dashboard => { kept with traceroute := dashboard.traceroute }) (fun _ => rfl)
      console.node.deliver before
  case connections =>
    have hresource : Resource.ofPath? request.target.path = some .refreshConnections := by
      rw [hpath]
      rfl
    refine Console.handle_of_path (motive := fun run : Run =>
      run.dashboard = { before with connections := run.dashboard.connections }) hresource rfl
      fun action haction => ?_
    cases haction
    exact Branch.keeps_loadConnections.run_eq
      (fun kept dashboard => { kept with connections := dashboard.connections }) (fun _ => rfl)
      console.node.deliver before
  case versions =>
    have hresource : Resource.ofPath? request.target.path = some .refreshVersions := by
      rw [hpath]
      rfl
    refine Console.handle_of_path (motive := fun run : Run =>
      run.dashboard = { before with versions := run.dashboard.versions }) hresource rfl
      fun action haction => ?_
    cases haction
    exact Branch.keeps_loadVersions.run_eq
      (fun kept dashboard => { kept with versions := dashboard.versions }) (fun _ => rfl)
      console.node.deliver before

/-- A request to sort a table that does not exist, and one to sort a table that does. -/
theorem handle_effects_sort :
    let console := Console.initial .atTest .standard
    let unknown := console.handle .directoryFirst ⟨"GET", "/tables/status/sort".toList, []⟩
    let known :=
      console.handle .directoryFirst ⟨"GET", "/tables/li%6Eks/sort".toList, "key=lq".toList⟩
    (unknown.2.status.IsClientError ∧ unknown.1.dashboard = console.dashboard) ∧
      ¬ known.2.status.IsClientError ∧ known.1.received = [] ∧
        ∃ table : TableId, Text.decode? (Percent.decode (Text.encode "li%6Eks".toList)) =
          some table.name.toList := by
  intro console unknown known
  have hunknown : unknown.2.status.IsClientError := Console.isClientError_iff.mpr ⟨_, rfl⟩
  have hknown : ¬ known.2.status.IsClientError := by decide +kernel
  have hrefused := (handle_effects console .directoryFirst
    ⟨"GET", "/tables/status/sort".toList, []⟩).1 hunknown
  obtain ⟨hreceived, table, _, _, htable, _⟩ := (handle_effects console .directoryFirst
    ⟨"GET", "/tables/li%6Eks/sort".toList, "key=lq".toList⟩).2.2.1 "li%6Eks".toList (by decide)
      rfl hknown
  exact ⟨⟨hunknown, hrefused.1⟩, hknown, hreceived, table, htable⟩

end MeshConsole
