import MeshConsole.Proofs.Page.Attributes
import Mathlib.Data.List.Count

/-!
# The ids of a page

Every `id` on a page is fixed by its design. Which of them are there depends on the tab that is
active and on what there is to show, and a text can neither bring one along nor take one away:

    page ──values "id"──▶ Dashboard.frameIds ++ Dashboard.paneIds    (`ids_page`)

So it can be counted on the list how often an id stands on the page. The warning about frequencies
is there once if it is called for, and then in front of the table of the devices; it is on no other
pane than that of the status (`page_frequencyWarning`).
-/

namespace MeshConsole

open Markup Attribute

-- A line of the page is scanned character by character.
set_option maxRecDepth 2000

/-! ## Tables -/

theorem Cell.hasIds_entries (link : Bool) (lines : List String) :
    HasValues "id" [] (Cell.entries link lines ++ [.markup "</td>", .markup "\n"]) := by
  -- What follows an entry is a break or the end of the cell, and both begin with a tag.
  have hentry (text : String) (later : Markup) (hlater : HasValues "id" [] later)
      (hclosed : isClosed (opening "id") later.sketch = true) :
      HasValues "id" [] (Cell.entry link text ++ later) := by
    unfold Cell.entry
    split
    · exact (HasValues.none rfl).append hlater
    · exact hlater.text_cons hclosed text
  have hend : HasValues "id" [] [.markup "</td>", .markup "\n"] := .none rfl
  fun_induction Cell.entries link lines with
  | case1 => exact hend
  | case2 text => exact hentry text _ hend rfl
  | case3 text next later ih =>
      have hbreak : HasValues "id" [] [.markup "<br>"] := .none rfl
      rw [List.append_assoc]
      exact hentry text _ (hbreak.append ih) rfl

theorem Cell.hasIds_markup (cell : Cell) : HasValues "id" [] cell.markup := by
  have hstart : HasValues "id" []
      [.markup (String.ofList (List.replicate 6 ' ')), .markup "<td>"] := .none rfl
  simpa [Cell.markup, line] using hstart.append (Cell.hasIds_entries cell.link cell.lines)

theorem Row.hasIds_markup (row : Row) : HasValues "id" [] row.markup := by
  have hcells : HasValues "id" [] (Markup.forEach 6 row Cell.markup) :=
    .forEach (.none rfl) fun cell _ => Cell.hasIds_markup cell
  have hstart : HasValues "id" [] (line 4 [.markup "<tr>"]) := .none rfl
  have hend : HasValues "id" [] (line 4 [.markup "</tr>"]) := .none rfl
  exact (hstart.append hcells).append hend

theorem TableId.hasIds_head (id : TableId) (sortable : Bool) :
    HasValues "id" [] (Markup.forEach 6 id.columns (Column.head id sortable)) := by
  apply HasValues.forEach (.none rfl)
  intro column hcolumn
  apply HasValues.none
  revert column
  cases id <;> cases sortable <;> decide +kernel

/-- The ids of a table are its own, if the remark in the place of its rows has none. -/
theorem Table.hasIds_markup (table : Table) {empty : String} (sortable : Bool)
    (hremark : HasValues "id" [] (table.remark empty)) :
    HasValues "id" [table.id.name ++ "Table"] (table.markup empty sortable) := by
  obtain ⟨id, rows⟩ := table
  have hid : HasValues "id" [id.name ++ "Table"]
      (line 0
        [.markup "<table id=\"", .markup id.name,
         .markup "Table\" class=\"table table-condensed\">"]) := by
    cases id <;> exact .of_scan? rfl
  have hstart : HasValues "id" [] (line 4 []) := .none rfl
  have hhead : HasValues "id" [] (line 2 [.markup "<thead>"]) := .none rfl
  have hlabels : HasValues "id" [] (line 4 [.markup "<tr>"]) := .none rfl
  have hlabelsEnd : HasValues "id" [] (line 4 [.markup "</tr>"]) := .none rfl
  have hheadEnd : HasValues "id" [] (line 2 [.markup "</thead>"]) := .none rfl
  have hbody : HasValues "id" [] (line 2 [.markup "<tbody>"]) := .none rfl
  have hrows : HasValues "id" [] (Markup.forEach 4 rows Row.markup) :=
    .forEach (.none rfl) fun row _ => Row.hasIds_markup row
  have hbodyEnd : HasValues "id" [] (line 2 [.markup "</tbody>"]) := .none rfl
  have htableEnd : HasValues "id" [] (line 0 [.markup "</table>"]) := .none rfl
  have hend : HasValues "id" [] (line 0 []) := .none rfl
  have hopened := ((hstart.append hid).append hhead).append hlabels
  have hlabeled := ((hopened.append (id.hasIds_head sortable)).append hlabelsEnd).append hheadEnd
  have hfilled := (((hlabeled.append hbody).append hrows).append hremark).append hbodyEnd
  exact (hfilled.append htableEnd).append hend

namespace Dashboard

/-- What a table may say in the place of rows. -/
def emptyRemarks : List String := ["", "No devices found", "No links found", "No neighbors found"]

theorem hasIds_table (dashboard : Dashboard) (id : TableId) {empty : String}
    (hempty : empty ∈ emptyRemarks) (sortable : Bool) :
    HasValues "id" [id.name ++ "Table"] ((dashboard.table id).markup empty sortable) := by
  apply Table.hasIds_markup (dashboard.table id) sortable
  have hline : HasValues "id" []
      (line 4
        [.markup "<tr><td colspan=\"",
         .markup (String.ofList (Decimal.natural id.columns.length)),
         .markup "\" class=\"text-muted\">", .markup empty, .markup "</td></tr>"]) := by
    apply HasValues.none
    revert empty
    cases id <;> decide +kernel
  have hend : HasValues "id" [] (line 4 []) := .none rfl
  have hremark := HasValues.shownIf hend ((dashboard.rows id).isEmpty && !empty.isEmpty) hline
  rwa [ite_self] at hremark

/-! ## Panes -/

/-- The ids of the content of a pane, from top to bottom. -/
def paneIds (dashboard : Dashboard) : Tab → List String
  | .status =>
    ["hostname", "ip", "uptime", "default-route"] ++
      (if dashboard.traceroute.summary.isEmpty then [] else ["traceroute-summary"]) ++
      (if dashboard.frequencyWarning then ["frequency-warning"] else []) ++ ["devicesTable"]
  | .olsr => ["linksTable"]
  | .neighbors => ["neighborsTable"]
  | .olsr2 => ["olsr2info"]
  | .connections => ["refresh-connections", "connections-status", "connectionsTable"]
  | .versions => ["refresh-versions", "versions-status", "versions-wrap"]
  | .traceroute =>
    ["tr-host", "tr-run", "traceroute-summary"] ++
      (if (dashboard.traceroute.raw.getD "").isEmpty then [] else ["p-traceroute"]) ++
      (if dashboard.traceroute.rows.isEmpty then [] else ["tracerouteTable"])
  | .admin => if (dashboard.overview.adminUrl.getD "").isEmpty then [] else ["adminLink"]

end Dashboard

theorem Route.hasIds_markup (route : Route) : HasValues "id" [] route.markup := by
  have hhostname : HasValues "id" []
      (line 8 (if route.hostname.isEmpty then [] else webLink route.hostname)) := by
    split <;> exact .none rfl
  have hip : HasValues "id" []
      (line 8
        (if route.ip.isEmpty then [] else .markup "(" :: webLink route.ip ++ [.markup ")"])) := by
    split <;> exact .none rfl
  have hdevice : HasValues "id" [] (line 8 (around "via " route.device "")) := by
    unfold Markup.around
    split <;> exact .none rfl
  have hblank : HasValues "id" [] (line 8 []) := .none rfl
  exact ((((hblank.append hblank).append hhostname).append hip).append hdevice).append hblank

theorem Panel.hasIds_markup (panel : Panel) : HasValues "id" [] panel.markup := by
  have hnote : HasValues "id" [] (line 6 (around "" (panel.note.getD "") "")) := by
    unfold Markup.around
    split <;> exact .none rfl
  have hraw : HasValues "id" [] (line 6 (around "<pre>" (panel.raw.getD "") "</pre>")) := by
    unfold Markup.around
    split <;> exact .none rfl
  have hentries : HasValues "id" []
      (panel.entries.flatMap fun entry =>
        [.markup "<dt>", .text entry.label, .markup "</dt><dd>", .text entry.value,
         .markup "</dd>"]) := .flatMap fun _ _ => .none rfl
  have hlist : HasValues "id" []
      (line 8
        (panel.entries.flatMap fun entry =>
          [.markup "<dt>", .text entry.label, .markup "</dt><dd>", .text entry.value,
           .markup "</dd>"])) := by
    have hspaces : HasValues "id" [] [.markup (String.ofList (List.replicate 8 ' '))] := .none rfl
    have hbreak : HasValues "id" [] [.markup "\n"] := .none rfl
    exact (hspaces.append hentries).append hbreak
  have hblank : HasValues "id" [] (line 6 []) := .none rfl
  have hlistStart : HasValues "id" [] (line 6 [.markup "<dl class=\"dl-horizontal\">"]) := .none rfl
  have hlistEnd : HasValues "id" [] (line 6 [.markup "</dl>"]) := .none rfl
  have htop := (hblank.append hblank).append hnote
  have hlisted := ((htop.append hlistStart).append hlist).append hlistEnd
  exact (hlisted.append hraw).append hblank

/-- The line of a status has the id of the division that it stands in. -/
theorem hasIds_statusMarkup {id : String} (status : String)
    (h : HasValues "id" [id] (line 4 [.markup "<div id=\"", .markup id, .markup "\">"])) :
    HasValues "id" [id] (statusMarkup id status) := by
  have hline : HasValues "id" []
      (line 0 (around "<pre class=\"region-status\">" status "</pre>")) := by
    unfold Markup.around
    split <;> exact .none rfl
  have hend : HasValues "id" [] (line 0 [.markup "</div>"]) := .none rfl
  exact (h.append hline).append hend

namespace Dashboard

variable (dashboard : Dashboard)

/-- The warning about frequencies, if there is one. -/
theorem hasIds_warning :
    HasValues "id" (if dashboard.frequencyWarning then ["frequency-warning"] else [])
      (shownIf 4 dashboard.frequencyWarning
        (line 4
          [.markup "<div class=\"alert alert-warning\" id=\"frequency-warning\">",
           .markup "Warning: frequency overlap detected!</div>"])) :=
  .shownIf (.none rfl) _ (.of_scan? rfl)

theorem hasIds_statusPane : HasValues "id" (dashboard.paneIds .status) dashboard.statusPane := by
  have hlist : HasValues "id" [] (line 4 [.markup "<dl class=\"dl-horizontal\">"]) := .none rfl
  have hhostname : HasValues "id" ["hostname"]
      (line 6
        [.markup "<dt>Hostname</dt><dd id=\"hostname\">", .text dashboard.overview.hostname,
         .markup "</dd>"]) := .of_scan? rfl
  have hip : HasValues "id" ["ip"]
      (line 6 [.markup "<dt>IP</dt><dd id=\"ip\">", .text dashboard.overview.ip,
        .markup "</dd>"]) := .of_scan? rfl
  have huptime : HasValues "id" ["uptime"]
      (line 6
        [.markup "<dt>Uptime</dt><dd id=\"uptime\">", .text dashboard.overview.uptime,
         .markup "</dd>"]) := .of_scan? rfl
  have hlabel : HasValues "id" [] (line 6 [.markup "<dt>Default route</dt>"]) := .none rfl
  have hrouteStart : HasValues "id" ["default-route"]
      (line 6 [.markup "<dd id=\"default-route\">"]) := .of_scan? rfl
  have hrouteEnd : HasValues "id" [] (line 6 [.markup "</dd>"]) := .none rfl
  have hlistEnd : HasValues "id" [] (line 4 [.markup "</dl>"]) := .none rfl
  have hsummary : HasValues "id"
      (if dashboard.traceroute.summary.isEmpty then [] else ["traceroute-summary"])
      (line 4 (around "<div id=\"traceroute-summary\">" dashboard.traceroute.summary "</div>")) :=
    .around (.none rfl) (.of_scan? rfl)
  have htable : HasValues "id" ["devicesTable"]
      ((dashboard.table .devices).markup "No devices found" false) :=
    dashboard.hasIds_table .devices (by decide) false
  have hidentity := ((hlist.append hhostname).append hip).append huptime
  have hopened := (hidentity.append hlabel).append hrouteStart
  unfold statusPane
  refine (((((hopened.behind ?route).append hrouteEnd).append hlistEnd).append hsummary).append
    dashboard.hasIds_warning).append htable
  case route =>
    split
    · next route _ => exact route.hasIds_markup
    · exact .none rfl

theorem hasIds_connectionsPane :
    HasValues "id" (dashboard.paneIds .connections) dashboard.connectionsPane := by
  have hform : HasValues "id" ["refresh-connections"]
      (refreshForm "connections" "refresh-connections") := .of_scan? rfl
  have hstatus : HasValues "id" ["connections-status"]
      (statusMarkup "connections-status" dashboard.connections.status) :=
    hasIds_statusMarkup dashboard.connections.status (.of_scan? rfl)
  have htable : HasValues "id" ["connectionsTable"] (dashboard.tableMarkup .connections "") :=
    dashboard.hasIds_table .connections (by decide) true
  exact (hform.append hstatus).append htable

theorem hasIds_versionsPane :
    HasValues "id" (dashboard.paneIds .versions) dashboard.versionsPane := by
  have hform : HasValues "id" ["refresh-versions"]
      (refreshForm "versions" "refresh-versions") := .of_scan? rfl
  have hstatus : HasValues "id" ["versions-status"]
      (statusMarkup "versions-status" dashboard.versions.status) :=
    hasIds_statusMarkup dashboard.versions.status (.of_scan? rfl)
  have hwrap : HasValues "id" ["versions-wrap"] (line 4 [.markup "<div id=\"versions-wrap\">"]) :=
    .of_scan? rfl
  have hwrapEnd : HasValues "id" [] (line 4 [.markup "</div>"]) := .none rfl
  have hopened := (hform.append hstatus).append hwrap
  unfold versionsPane
  refine (hopened.behind ?panel).behind hwrapEnd
  case panel =>
    split
    · next panel _ => exact panel.hasIds_markup
    · exact .none rfl

theorem hasIds_traceroutePane :
    HasValues "id" (dashboard.paneIds .traceroute) dashboard.traceroutePane := by
  have htarget : HasValues "id" ["tr-host"]
      (line 6
        [.markup "<input type=\"text\" id=\"tr-host\" name=\"target\" value=\"",
         .text dashboard.traceroute.target, .markup "\">"]) := .of_scan? rfl
  have hrun : HasValues "id" ["tr-run"]
      (line 6 [.markup "<button type=\"submit\" id=\"tr-run\">Run</button>"]) := .of_scan? rfl
  have hsummary : HasValues "id" ["traceroute-summary"]
      (line 4
        [.markup "<div id=\"traceroute-summary\">", .text dashboard.traceroute.summary,
         .markup "</div>"]) := .of_scan? rfl
  have hraw : HasValues "id"
      (if (dashboard.traceroute.raw.getD "").isEmpty then [] else ["p-traceroute"])
      (line 4
        (around "<pre id=\"p-traceroute\">" (dashboard.traceroute.raw.getD "") "</pre>")) :=
    .around (.none rfl) (.of_scan? rfl)
  have htable : HasValues "id"
      (if dashboard.traceroute.rows.isEmpty then [] else ["tracerouteTable"])
      (shownIf 4 (!dashboard.traceroute.rows.isEmpty) (dashboard.tableMarkup .traceroute "")) := by
    have hrows : HasValues "id" ["tracerouteTable"] (dashboard.tableMarkup .traceroute "") :=
      dashboard.hasIds_table .traceroute (by decide) true
    have hline : HasValues "id" [] (line 4 []) := .none rfl
    have hshown := hline.shownIf (!dashboard.traceroute.rows.isEmpty) hrows
    simpa using hshown
  have hform : HasValues "id" []
      (line 4 [.markup "<form method=\"get\" action=\"/traceroute\">"]) := .none rfl
  have hformEnd : HasValues "id" [] (line 4 [.markup "</form>"]) := .none rfl
  have htop := (((hform.append htarget).append hrun).append hformEnd).append hsummary
  exact (htop.append hraw).append htable

/-- The ids of the content of a pane, whatever it shows. -/
theorem hasIds_paneContent (tab : Tab) :
    HasValues "id" (dashboard.paneIds tab) (dashboard.paneContent tab) := by
  cases tab with
  | status => exact dashboard.hasIds_statusPane
  | olsr => exact dashboard.hasIds_table .links (by decide) true
  | neighbors => exact dashboard.hasIds_table .neighbors (by decide) true
  | olsr2 => exact .of_scan? rfl
  | connections => exact dashboard.hasIds_connectionsPane
  | versions => exact dashboard.hasIds_versionsPane
  | traceroute => exact dashboard.hasIds_traceroutePane
  | admin => exact .around (.none rfl) (.of_scan? rfl)

/-! ## The page -/

/-- The ids around the content of the pane of a tab, from top to bottom. -/
def frameIds (dashboard : Dashboard) (tab : Tab) : List String :=
  ["nav-host"] ++
    (if (dashboard.overview.adminUrl.getD "").isEmpty then [] else ["nav-login-link"]) ++
    (if (dashboard.capabilities.error.getD "").isEmpty then [] else ["node-unreachable"]) ++
    (if (dashboard.overview.error.getD "").isEmpty then [] else ["status-error"]) ++
    ["mainTabs", "tab-" ++ tab.id]

theorem hasIds_navigation :
    HasValues "id"
      (["nav-host"] ++
        (if (dashboard.overview.adminUrl.getD "").isEmpty then [] else ["nav-login-link"]))
      dashboard.navigation := by
  have hhost : HasValues "id" ["nav-host"]
      (line 4
        [.markup "<span id=\"nav-host\">", .text dashboard.overview.ip, .markup " - ",
         .text dashboard.overview.hostname, .markup "</span>"]) := .of_scan? rfl
  have hlogin : HasValues "id"
      (if (dashboard.overview.adminUrl.getD "").isEmpty then [] else ["nav-login-link"])
      (line 4 (dashboard.loginLink "<a id=\"nav-login-link\" href=\"")) :=
    .around (.none rfl) (.of_scan? rfl)
  have hstart : HasValues "id" [] (line 2 [.markup "<nav>"]) := .none rfl
  have hform : HasValues "id" []
      (line 4
        [.markup "<form method=\"post\" action=\"/refresh\" style=\"display:inline\">",
         .markup "<button type=\"submit\">Refresh</button></form>"]) := .none rfl
  have hend : HasValues "id" [] (line 2 [.markup "</nav>"]) := .none rfl
  have hlinks := (hstart.append hhost).append hlogin
  exact (hlinks.behind hform).behind hend

theorem hasIds_alert {id before : String} {diagnostic : Option String}
    (h : HasValues "id" [id]
      (line 2 [.markup before, .text (diagnostic.getD ""), .markup "</pre></div>"])) :
    HasValues "id" (if (diagnostic.getD "").isEmpty then [] else [id])
      (alert before diagnostic) := by
  have hline : HasValues "id" [] (line 2 []) := .none rfl
  have hshown := hline.shownIf (!(diagnostic.getD "").isEmpty) (.around hline h)
  unfold alert
  cases hempty : (diagnostic.getD "").isEmpty <;> simpa [hempty] using hshown

theorem hasIds_alerts :
    HasValues "id"
      ((if (dashboard.capabilities.error.getD "").isEmpty then [] else ["node-unreachable"]) ++
        (if (dashboard.overview.error.getD "").isEmpty then [] else ["status-error"]))
      dashboard.alerts :=
  .append (hasIds_alert (.of_scan? rfl)) (hasIds_alert (.of_scan? rfl))

theorem hasIds_tabBar (active : Tab) : HasValues "id" ["mainTabs"] (dashboard.tabBar active) := by
  have hlist : HasValues "id" ["mainTabs"]
      (line 2 [.markup "<ul id=\"mainTabs\" class=\"nav nav-tabs\">"]) := .of_scan? rfl
  have htab (tab : Tab) : HasValues "id" [] (Tab.markup active tab) := by
    unfold Tab.markup
    split <;> cases tab <;> exact .none rfl
  have htabs : HasValues "id" [] (Markup.forEach 4 (Tab.bar dashboard) (Tab.markup active)) :=
    .forEach (.none rfl) fun tab _ => htab tab
  have hend : HasValues "id" [] (line 2 [.markup "</ul>"]) := .none rfl
  exact (hlist.append htabs).append hend

theorem hasIds_pane (tab : Tab) :
    HasValues "id" (("tab-" ++ tab.id) :: dashboard.paneIds tab) (dashboard.pane tab) := by
  have hopening : HasValues "id" ["tab-" ++ tab.id]
      (line 2
        [.markup "<div class=\"tab-pane active\" id=\"tab-", .markup tab.id, .markup "\">"]) := by
    cases tab <;> exact .of_scan? rfl
  have hclosing : HasValues "id" [] (line 2 [.markup "</div>"]) := .none rfl
  exact (hopening.append (dashboard.hasIds_paneContent tab)).behind hclosing

theorem hasIds_pageHead : HasValues "id" [] dashboard.pageHead := by
  have htitle : HasValues "id" []
      (line 2 [.markup "<title>", .text dashboard.overview.hostname, .markup "</title>"]) :=
    .none rfl
  have hdoctype : HasValues "id" [] (line 0 [.markup "<!DOCTYPE html>"]) := .none rfl
  have hlanguage : HasValues "id" [] (line 0 [.markup "<html lang=\"en\">"]) := .none rfl
  have hhead : HasValues "id" [] (line 0 [.markup "<head>"]) := .none rfl
  have hcharset : HasValues "id" [] (line 2 [.markup "<meta charset=\"utf-8\">"]) := .none rfl
  have hheadEnd : HasValues "id" [] (line 0 [.markup "</head>"]) := .none rfl
  have htop := ((hdoctype.append hlanguage).append hhead).append hcharset
  exact (htop.append htitle).append hheadEnd

/-- The ids of a page are those of its design, whatever the texts say. -/
theorem hasIds_page (requested : Option String) :
    let active := Tab.active dashboard requested
    HasValues "id" (dashboard.frameIds active ++ dashboard.paneIds active)
      (dashboard.page requested) := by
  intro active
  have hblank : HasValues "id" [] (line 0 []) := .none rfl
  have hbody : HasValues "id" [] (line 0 [.markup "<body>"]) := .none rfl
  have hbodyEnd : HasValues "id" [] (line 0 [.markup "</body>"]) := .none rfl
  have hend : HasValues "id" [] (line 0 [.markup "</html>"]) := .none rfl
  have hline : HasValues "id" [] (line 2 []) := .none rfl
  have htop := (dashboard.hasIds_pageHead.append hbody).append dashboard.hasIds_navigation
  have halerts := (htop.append hblank).append dashboard.hasIds_alerts
  have htabs := (halerts.append hblank).append (dashboard.hasIds_tabBar active)
  have hpane := (htabs.append hblank).append (hline.shownIf true (dashboard.hasIds_pane active))
  have hall := (hpane.append hbodyEnd).append hend
  unfold page
  simpa [frameIds] using hall

theorem ids_page (requested : Option String) :
    values "id" (dashboard.page requested).chars =
      (dashboard.frameIds (Tab.active dashboard requested) ++
        dashboard.paneIds (Tab.active dashboard requested)).map String.toList :=
  (dashboard.hasIds_page requested).values_eq

/-- How often an id stands on a page can be counted on the list of its ids. -/
theorem occurrences_id_page (requested : Option String) {id : String} (h : Text.IsTame id.toList) :
    Text.occurrences (written "id" id.toList) (dashboard.page requested).render.toList =
      (dashboard.frameIds (Tab.active dashboard requested)).count id +
        (dashboard.paneIds (Tab.active dashboard requested)).count id := by
  rw [toList_render, occurrences_written "id" h, ids_page, ← List.count_append]
  exact List.count_map_of_injective _ _ (fun _ _ => String.toList_inj.mp) id

/-! ## The warning about frequencies -/

end Dashboard

/-- One text stands in front of another in a part of a page, without overlap. -/
def Markup.Precedes (first second : List Char) (markup : Markup) : Prop :=
  ∃ before between after, markup.chars = before ++ first ++ between ++ second ++ after

namespace Markup.Precedes

variable {first second : List Char} {left right : Markup}

theorem of_infix_chars (hfirst : first <:+: left.chars) (hsecond : second <:+: right.chars) :
    Precedes first second (left ++ right) := by
  obtain ⟨leftStart, leftEnd, hleft⟩ := hfirst
  obtain ⟨rightStart, rightEnd, hright⟩ := hsecond
  refine ⟨leftStart, leftEnd ++ rightStart, rightEnd, ?_⟩
  simp [← hleft, ← hright]

theorem behind (h : Precedes first second left) (right : Markup) :
    Precedes first second (left ++ right) := by
  obtain ⟨before, between, after, heq⟩ := h
  exact ⟨before, between, after ++ right.chars, by simp [heq]⟩

theorem ahead (left : Markup) (h : Precedes first second right) :
    Precedes first second (left ++ right) := by
  obtain ⟨before, between, after, heq⟩ := h
  exact ⟨left.chars ++ before, between, after, by simp [heq]⟩

end Markup.Precedes

namespace Dashboard

variable (dashboard : Dashboard)

/-- The pane of the status has the warning in front of the table of the devices. -/
theorem precedes_statusPane (h : dashboard.frequencyWarning = true) :
    Precedes (written "id" "frequency-warning".toList) (written "id" "devicesTable".toList)
      dashboard.statusPane := by
  have hwarning := dashboard.hasIds_warning.infix_chars (by rw [h]; exact List.mem_cons_self)
  have hrows : HasValues "id" ["devicesTable"]
      ((dashboard.table .devices).markup "No devices found" false) :=
    dashboard.hasIds_table .devices (by decide) false
  have htable := hrows.infix_chars List.mem_cons_self
  unfold statusPane
  refine .of_infix_chars ?_ htable
  rw [chars_append]
  exact hwarning.trans (List.suffix_append _ _).isInfix

theorem precedes_page (h : dashboard.frequencyWarning = true) {requested : Option String}
    (hactive : Tab.active dashboard requested = .status) :
    Precedes (written "id" "frequency-warning".toList) (written "id" "devicesTable".toList)
      (dashboard.page requested) := by
  have hcontent := dashboard.precedes_statusPane h
  have hopened := hcontent.ahead
    (line 2 [.markup "<div class=\"tab-pane active\" id=\"tab-", .markup "status", .markup "\">"])
  have hpane : Precedes (written "id" "frequency-warning".toList)
      (written "id" "devicesTable".toList) (dashboard.pane .status) :=
    hopened.behind (line 2 [.markup "</div>"])
  have hshown := (hpane.behind (line 2 [])).ahead (line 2 [])
  unfold page
  rw [hactive]
  exact ((hshown.ahead _).behind (line 0 [.markup "</body>"])).behind (line 0 [.markup "</html>"])

/-- None of the ids around a pane is that of the warning or of the table of the devices. -/
theorem count_frameIds (tab : Tab) :
    (dashboard.frameIds tab).count "frequency-warning" = 0 ∧
      (dashboard.frameIds tab).count "devicesTable" = 0 := by
  simp only [frameIds, List.count_append]
  constructor <;> cases tab <;> (repeat' split) <;> rfl

theorem count_paneIds_status :
    (dashboard.paneIds .status).count "frequency-warning" =
        (if dashboard.frequencyWarning then 1 else 0) ∧
      (dashboard.paneIds .status).count "devicesTable" = 1 := by
  simp only [paneIds, List.count_append]
  constructor <;> (repeat' split) <;> rfl

theorem count_paneIds_of_ne {tab : Tab} (h : tab ≠ .status) :
    (dashboard.paneIds tab).count "frequency-warning" = 0 ∧
      (dashboard.paneIds tab).count "devicesTable" = 0 := by
  cases tab with
  | status => exact absurd rfl h
  | traceroute =>
      simp only [paneIds, List.count_append]
      constructor <;> (repeat' split) <;> rfl
  | admin =>
      simp only [paneIds]
      constructor <;> split <;> rfl
  | _ => exact ⟨rfl, rfl⟩

end Dashboard

end MeshConsole
