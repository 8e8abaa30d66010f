import MeshConsole.Proofs.Dashboard.Isolation
import MeshConsole.Proofs.Dashboard.Reached
import MeshConsole.Proofs.Page.Delimiters

/-!
# Errors of the node on the page

A node that answers with an error says why in the body, and the operator has to see it:

    answer ──load──▶ dashboard ──page──▶ the status and the body, escaped

There are four notices on the page for that. One shows what the dashboard has for it, unless that is
empty (`infix_page`). A load that is answered with an error leaves the answer there, whatever stood
there before (`text_rest`), and the other parts of a full load leave it alone (`keeps_branch`).
-/

namespace MeshConsole

open Markup

/-- The notices of the page, each of which tells why a part could not be loaded. -/
inductive Notice where
  | capabilities
  | status
  | connections
  | versions
deriving Repr, DecidableEq

/-- An answer with an error brings no payload. -/
theorem Exchange.json_of_error {α : Type} [Payload α] {answer : Answer}
    (h : answer.status.isSuccess = false) :
    Exchange.json α (.ok answer) = .error (.http answer) := by
  simp [Exchange.json, h]

namespace Notice

/-- The part that a notice is about. -/
def part : Notice → Part
  | capabilities => .capabilities
  | status => .status
  | connections => .connections
  | versions => .versions

/-- What a dashboard has for a notice. -/
def text (dashboard : Dashboard) : Notice → String
  | capabilities => dashboard.capabilities.error.getD ""
  | status => dashboard.overview.error.getD ""
  | connections => dashboard.connections.status
  | versions => dashboard.versions.status

/-- The markup in front of it. -/
def opening : Notice → String
  | capabilities =>
    "<div class=\"alert alert-danger\" id=\"node-unreachable\">Node not reachable: <pre>"
  | status => "<div class=\"alert alert-danger\" id=\"status-error\"><pre>"
  | connections => "<div id=\"connections-status\">\n<pre class=\"region-status\">"
  | versions => "<div id=\"versions-status\">\n<pre class=\"region-status\">"

/-- The markup behind it. -/
def closing : Notice → String
  | capabilities | status => "</pre></div>"
  | connections | versions => "</pre>\n</div>"

/-- A notice is on the page of the requested tab. Two of them stand above the tabs. -/
def IsOn (requested : Option String) : Notice → Prop
  | capabilities | status => True
  | connections => requested = some Tab.connections.id
  | versions => requested = some Tab.versions.id

/-- A notice with the given text. -/
def shown (notice : Notice) (text : String) : List Char :=
  notice.opening.toList ++ Piece.escape text.toList ++ notice.closing.toList

/-! ## Notices on the page -/

theorem infix_alert {before : String} {diagnostic : Option String} (h : diagnostic.getD "" ≠ "") :
    before.toList ++ Piece.escape (diagnostic.getD "").toList ++ "</pre></div>".toList <:+:
      (Dashboard.alert before diagnostic).chars := by
  have hshown : (diagnostic.getD "").isEmpty = false := by simpa using h
  refine ⟨(line 2 []).chars ++ "  ".toList, '\n' :: (line 2 []).chars, ?_⟩
  simp [Dashboard.alert, Markup.around, shownIf, line, hshown, Piece.chars]

theorem infix_statusMarkup {before id text : String}
    (hbefore : before = "<div id=\"" ++ id ++ "\">\n<pre class=\"region-status\">")
    (h : text ≠ "") :
    before.toList ++ Piece.escape text.toList ++ "</pre>\n</div>".toList <:+:
      (statusMarkup id text).chars := by
  subst hbefore
  have hshown : text.isEmpty = false := by simpa using h
  refine ⟨"    ".toList, "\n".toList, ?_⟩
  simp [statusMarkup, Markup.around, line, hshown, Piece.chars]

variable {notice : Notice} {dashboard : Dashboard} {requested : Option String}

/-- What stands above the tabs is on every page. -/
theorem infix_page_of_alerts {text : List Char} (h : text <:+: dashboard.alerts.chars) :
    text <:+: (dashboard.page requested).chars := by
  unfold Dashboard.page
  simp only [chars_append, List.append_assoc]
  -- The head, the opening of the body, the navigation and a blank line stand in front.
  iterate 4 apply List.infix_append_of_infix_right
  exact List.infix_append_of_infix_left h

/-- What stands in the pane of the active tab is on the page. -/
theorem infix_page_of_pane {text : List Char}
    (h : text <:+: (dashboard.paneContent (Tab.active dashboard requested)).chars) :
    text <:+: (dashboard.page requested).chars := by
  unfold Dashboard.page Dashboard.pane shownIf
  simp only [if_true, chars_append, List.append_assoc]
  iterate 10 apply List.infix_append_of_infix_right
  exact List.infix_append_of_infix_left h

/-- A notice that is on a page shows what the dashboard has for it, unless that is empty. -/
theorem infix_page (hrequested : notice.IsOn requested) (h : notice.text dashboard ≠ "") :
    notice.shown (notice.text dashboard) <:+: (dashboard.page requested).chars := by
  cases notice with
  | capabilities =>
      apply infix_page_of_alerts
      unfold Dashboard.alerts
      rw [chars_append]
      exact List.infix_append_of_infix_left (infix_alert h)
  | status =>
      apply infix_page_of_alerts
      unfold Dashboard.alerts
      rw [chars_append]
      exact List.infix_append_of_infix_right (infix_alert h)
  | connections =>
      obtain rfl : requested = some Tab.connections.id := hrequested
      apply infix_page_of_pane
      show _ <:+: dashboard.connectionsPane.chars
      unfold Dashboard.connectionsPane
      rw [chars_append, chars_append]
      apply List.infix_append_of_infix_left
      apply List.infix_append_of_infix_right
      exact infix_statusMarkup (by decide) h
  | versions =>
      obtain rfl : requested = some Tab.versions.id := hrequested
      apply infix_page_of_pane
      show _ <:+: dashboard.versionsPane.chars
      unfold Dashboard.versionsPane
      simp only [chars_append, List.append_assoc]
      apply List.infix_append_of_infix_right
      exact List.infix_append_of_infix_left (infix_statusMarkup (by decide) h)

/-! ## Loads that are answered with an error -/

variable {thresholds : Thresholds} {answer : Answer} {answer? : Endpoint → Option Exchange}
  {deliver : Endpoint → Delivery} {pending : Pending}

/-- What follows on the request is one write, and it leaves the answer for the notice. -/
theorem exists_update (h : answer.status.isSuccess = false)
    (hsuspends : (notice.part.branch thresholds).Suspends pending) :
    pending.endpoint = notice.part.endpoint ∧
      ∃ update : Dashboard → Dashboard, pending.next (.ok answer) = .write update .done ∧
        ∀ dashboard, notice.text (update dashboard) = answer.text := by
  cases notice with
  | capabilities =>
      obtain rfl := hsuspends.eq_ask fun fault => ⟨_, Or.inl rfl⟩
      refine ⟨rfl, _, rfl, fun dashboard => ?_⟩
      rw [Exchange.json_of_error h]
      rfl
  | status =>
      obtain rfl := hsuspends.eq_ask fun fault => ⟨_, Or.inl rfl⟩
      refine ⟨rfl, Dashboard.failStatus (.http answer), ?_, fun dashboard => rfl⟩
      dsimp only
      rw [Exchange.json_of_error h]
  | connections =>
      cases hsuspends with
      | write hask =>
          obtain rfl := hask.eq_ask fun fault => ⟨_, Or.inl rfl⟩
          refine ⟨rfl, _, rfl, fun dashboard => ?_⟩
          rw [Exchange.json_of_error h]
          rfl
  | versions =>
      cases hsuspends with
      | write hask =>
          obtain rfl := hask.eq_ask fun fault => ⟨_, Or.inl rfl⟩
          refine ⟨rfl, _, rfl, fun dashboard => ?_⟩
          rw [Exchange.json_of_error h]
          rfl

/-- The rest of a load, from the request on, leaves the answer for the notice. -/
theorem text_rest (h : answer.status.isSuccess = false)
    (hsuspends : (notice.part.branch thresholds).Suspends pending)
    (hanswer : answer? notice.part.endpoint = some (.ok answer)) (dashboard : Dashboard) :
    notice.text ((Branch.ask pending.endpoint pending.next).reached answer? dashboard) =
      answer.text := by
  obtain ⟨hendpoint, update, hnext, hupdate⟩ := exists_update h hsuspends
  rw [Branch.reached, hendpoint, hanswer]
  dsimp only
  rw [hnext]
  exact hupdate dashboard

theorem text_reached (h : answer.status.isSuccess = false)
    (hanswer : answer? notice.part.endpoint = some (.ok answer)) (dashboard : Dashboard) :
    notice.text ((notice.part.branch thresholds).reached answer? dashboard) = answer.text := by
  have hrest {pending : Pending} (hsuspends : (notice.part.branch thresholds).Suspends pending) :=
    text_rest h hsuspends hanswer
  cases notice with
  | capabilities => exact hrest .ask dashboard
  | status => exact hrest .ask dashboard
  | connections => exact hrest (.write .ask) dashboard.awaitConnections
  | versions => exact hrest (.write .ask) dashboard.awaitVersions

/-- No write of another part reaches a notice. -/
theorem keeps_branch {part : Part} (hne : part ≠ notice.part) :
    (part.branch thresholds).Keeps notice.text := by
  cases part with
  | capabilities =>
      refine .ask fun exchange => .write (fun dashboard => ?_) .done
      cases notice with
      | capabilities => exact absurd rfl hne
      | _ => rfl
  | status =>
      have hshow (found : Status) (olsr2Info : String) (dashboard : Dashboard) :
          notice.text (dashboard.showStatus thresholds found olsr2Info) =
            notice.text dashboard := by
        rw [Dashboard.showStatus_eq]
        cases notice with
        | status => exact absurd rfl hne
        | _ => rfl
      refine .ask fun exchange => ?_
      split
      · refine .write (fun dashboard => ?_) .done
        cases notice with
        | status => exact absurd rfl hne
        | _ => rfl
      · dsimp only
        split
        · exact .ask fun exchange => .write (hshow _ _) .done
        · exact .write (hshow _ _) .done
  | directory =>
      refine .ask fun exchange => ?_
      split
      · exact .write (fun dashboard => by cases notice <;> rfl) .done
      · exact .done
  | connections =>
      have hstatus (text : String) (dashboard : Dashboard) :
          notice.text { dashboard with connections.status := text } = notice.text dashboard := by
        cases notice with
        | connections => exact absurd rfl hne
        | _ => rfl
      refine .write (hstatus _) (.ask fun exchange => .write (fun dashboard => ?_) .done)
      cases exchange.json (Option Connections) with
      | error failure => exact hstatus _ dashboard
      | ok found =>
          rw [Dashboard.showConnections_ok]
          cases notice with
          | connections => exact absurd rfl hne
          | _ => rfl
  | versions =>
      have hregion (region : VersionsRegion) (dashboard : Dashboard) :
          notice.text { dashboard with versions := region } = notice.text dashboard := by
        cases notice with
        | versions => exact absurd rfl hne
        | _ => rfl
      refine .write (fun dashboard => hregion _ dashboard)
        (.ask fun exchange => .write (fun dashboard => ?_) .done)
      cases exchange.json Json <;> exact hregion _ dashboard

theorem text_foldl_parts (h : answer.status.isSuccess = false)
    (hanswer : answer? notice.part.endpoint = some (.ok answer)) {parts : List Part}
    {dashboard : Dashboard}
    (hparts : notice.part ∈ parts ∨ notice.text dashboard = answer.text) :
    notice.text
        (parts.foldl
          (fun dashboard part => (part.branch thresholds).reached answer? dashboard) dashboard) =
      answer.text := by
  -- Either the part of the notice is still to come, or the answer is there already.
  induction parts generalizing dashboard with
  | nil => simpa using hparts
  | cons part parts ih =>
      rw [List.foldl_cons]
      apply ih
      by_cases hself : part = notice.part
      · subst hself
        exact Or.inr (text_reached h hanswer dashboard)
      · rw [(keeps_branch hself).reached_eq]
        rcases hparts with hmem | htext
        · exact Or.inl ((List.mem_cons.mp hmem).resolve_left (Ne.symm hself))
        · exact Or.inr htext

/-- A full load asks for the other parts once there is an answer about the capabilities. -/
theorem text_loadAll (h : answer.status.isSuccess = false)
    (hanswer : deliver notice.part.endpoint = .delivered (.ok answer))
    (hcapabilities : deliver .capabilities ≠ .silent) (order : LoadOrder) (dashboard : Dashboard) :
    notice.text (dashboard.loadAll deliver thresholds order).dashboard = answer.text := by
  have hexchange : (deliver .capabilities).exchange?.isSome := by
    cases hdeliver : deliver .capabilities with
    | silent => exact absurd hdeliver hcapabilities
    | _ => rfl
  have hanswer? : (deliver notice.part.endpoint).exchange? = some (.ok answer) := by
    rw [hanswer]
    rfl
  have hreached : notice.text
      ((notice.part.branch thresholds).reached (fun endpoint => (deliver endpoint).exchange?)
        dashboard) = answer.text := text_reached h hanswer? dashboard
  rw [Dashboard.dashboard_loadAll, if_pos hexchange]
  apply text_foldl_parts h hanswer?
  cases notice with
  | capabilities => exact Or.inr hreached
  | _ => exact Or.inl (LoadOrder.mem_parts.mpr (by decide))

/-- With its answer the load comes to its end. -/
theorem finished_ask (h : answer.status.isSuccess = false)
    (hsuspends : (notice.part.branch thresholds).Suspends pending)
    (hanswer : deliver notice.part.endpoint = .delivered (.ok answer)) (dashboard : Dashboard) :
    ((Branch.ask pending.endpoint pending.next).run deliver dashboard).finished = true ∧
      (pending.resume deliver dashboard).finished = true := by
  obtain ⟨hendpoint, update, hnext, -⟩ := exists_update h hsuspends
  unfold Branch.run Pending.resume
  rw [hendpoint, hanswer]
  dsimp only
  rw [hnext]
  exact ⟨rfl, rfl⟩

theorem finished_run (h : answer.status.isSuccess = false)
    (hanswer : deliver notice.part.endpoint = .delivered (.ok answer)) (dashboard : Dashboard) :
    ((notice.part.branch thresholds).run deliver dashboard).finished = true := by
  have hask {pending : Pending} (hsuspends : (notice.part.branch thresholds).Suspends pending)
      (dashboard : Dashboard) := (finished_ask h hsuspends hanswer dashboard).1
  cases notice with
  | capabilities => exact hask .ask dashboard
  | status => exact hask .ask dashboard
  | connections => exact hask (.write .ask) dashboard.awaitConnections
  | versions => exact hask (.write .ask) dashboard.awaitVersions

theorem infix_page_of_text_eq {answer : Answer} (hrequested : notice.IsOn requested)
    (h : notice.text dashboard = answer.text) :
    notice.shown answer.text <:+: (dashboard.page requested).render.toList := by
  have hne : notice.text dashboard ≠ "" := by simp [h, Answer.text]
  rw [toList_render, ← h]
  exact infix_page hrequested hne

end Notice

/-- **Errors reach the operator.** A load that is answered with an error comes to its end, and then the
page has the status and the body, escaped, in the notice of the load. So it is if the load runs at
once, if it goes on from its request with whatever is shown by then, and in a full load. -/
theorem page_showsError (deliver : Endpoint → Delivery) (thresholds : Thresholds)
    (order : LoadOrder) (dashboard : Dashboard) (notice : Notice) (answer : Answer)
    (requested : Option String)
    (hanswer : deliver notice.part.endpoint = .delivered (.ok answer))
    (herror : ¬ (200 ≤ answer.status.val ∧ answer.status.val ≤ 299))
    (hrequested : notice.IsOn requested) :
    let told := notice.shown ("HTTP " ++ answer.status.text ++ "\n" ++ answer.body)
    let page (dashboard : Dashboard) := (dashboard.page requested).render.toList
    let branch := notice.part.branch thresholds
    ((branch.run deliver dashboard).finished = true ∧
        told <:+: page (branch.run deliver dashboard).dashboard) ∧
      (∀ pending, branch.Suspends pending →
        (pending.resume deliver dashboard).finished = true ∧
          told <:+: page (pending.resume deliver dashboard).dashboard) ∧
      (deliver .capabilities ≠ .silent →
        told <:+: page (dashboard.loadAll deliver thresholds order).dashboard) := by
  intro told page branch
  have hfailed : answer.status.isSuccess = false := by
    rw [← Bool.not_eq_true]
    intro hsuccess
    apply herror
    simpa [StatusCode.isSuccess] using hsuccess
  have hanswer? : (deliver notice.part.endpoint).exchange? = some (.ok answer) := by
    rw [hanswer]
    rfl
  refine ⟨⟨notice.finished_run hfailed hanswer dashboard, ?_⟩, fun pending hsuspends => ?_, ?_⟩
  · apply Notice.infix_page_of_text_eq hrequested
    rw [Branch.dashboard_run]
    exact Notice.text_reached hfailed hanswer? dashboard
  · refine ⟨(Notice.finished_ask hfailed hsuspends hanswer dashboard).2, ?_⟩
    apply Notice.infix_page_of_text_eq hrequested
    rw [Branch.dashboard_resume]
    exact Notice.text_rest hfailed hsuspends hanswer? dashboard
  · intro hcapabilities
    apply Notice.infix_page_of_text_eq hrequested
    exact Notice.text_loadAll hfailed hanswer hcapabilities order dashboard

/-- A node that answers each request for its status with an error of the given text. -/
def Script.failingStatus (body : String) : Script :=
  [("status", .answer ⟨503, by decide⟩ (Text.encode body.toList))]

/-- The operator reads why there is no status on the page of the versions, and markup in the answer
is shown as text. -/
theorem page_showsError_escaped :
    let node := Node.atTest.withScript (.failingStatus "busy <b>&</b>")
    let answer : Answer := ⟨⟨503, by decide⟩, "busy <b>&</b>"⟩
    let told :=
      "<div class=\"alert alert-danger\" id=\"status-error\"><pre>HTTP 503 Service Unavailable\n" ++
        "busy &lt;b&gt;&amp;&lt;&#x2F;b&gt;</pre></div>"
    let run := Dashboard.initial.loadAll node.deliver .standard .directoryFirst
    node.deliver Notice.status.part.endpoint = .delivered (.ok answer) ∧
      ¬ (200 ≤ answer.status.val ∧ answer.status.val ≤ 299) ∧
      Notice.status.IsOn (some "versions") ∧
      told.toList <:+: (run.dashboard.page (some "versions")).render.toList := by
  intro node answer told run
  have hanswer : node.deliver Notice.status.part.endpoint = .delivered (.ok answer) := by rfl
  have herror : ¬ (200 ≤ answer.status.val ∧ answer.status.val ≤ 299) := by decide
  have hcapabilities : node.deliver .capabilities ≠ .silent := by
    intro hsilent
    cases hsilent
  have htold : told.toList =
      Notice.status.shown ("HTTP " ++ answer.status.text ++ "\n" ++ answer.body) := by
    decide +kernel
  refine ⟨hanswer, herror, trivial, ?_⟩
  rw [htold]
  exact (page_showsError node.deliver .standard .directoryFirst .initial .status answer
    (some "versions") hanswer herror trivial).2.2 hcapabilities

end MeshConsole
