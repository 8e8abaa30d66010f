import MeshConsole.Proofs.Console.Effects
import MeshConsole.Proofs.Http.FormRequest
import MeshConsole.Proofs.Page.Places
import Mathlib.Data.List.Nodup

/-!
# The active tab

Which tab is active is decided twice on a page: in the bar, where its link is marked, and below it,
where its pane stands. Everything else on the page is plain, that is, it has no place for the mark
of a link nor for the class of a pane:

    plain ++ link of the active tab ++ plain ++ start of its pane ++ plain    (`exists_page_eq`)

So each of the two patterns has one place on the page, and stands there (`occurrences_page`).
-/

namespace MeshConsole

open Markup

/-- The start of the active tab in the bar. -/
def Pattern.activeTab : Pattern := ⟨[], '<', "li class=\"active\">".toList, rfl⟩

/-- The class of the pane. -/
def Pattern.activePane : Pattern := ⟨"class=".toList, '"', "tab-pane active\"".toList, rfl⟩

/-- The patterns of which a page has one each. -/
def Pattern.ofActive : List Pattern := [.activeTab, .activePane]

/-! ## Plain parts of a page -/

/-- A piece with no place for the start of an active tab, nor for the class of the pane. -/
def Piece.isPlain (piece : Piece) : Bool :=
  Pattern.ofActive.all fun pattern => piece.places pattern == 0

@[simp] theorem Piece.isPlain_text (content : String) : (text content).isPlain = true := rfl

theorem Piece.isPlain_markup_of_isTame {source : String} (h : Text.IsTame source.toList) :
    (markup source).isPlain = true := by
  simp [isPlain, places, Pattern.ofActive, Pattern.places_of_isTame _ h]

/-- The spaces in front of a line. -/
@[simp] theorem Piece.isPlain_indent (indent : Nat) :
    (markup (String.ofList (List.replicate indent ' '))).isPlain = true := by
  apply isPlain_markup_of_isTame
  rw [String.toList_ofList]
  intro c hc
  rw [List.eq_of_mem_replicate hc]
  rfl

namespace Markup

/-- A part of a page all of whose pieces are plain. -/
def isPlain (markup : Markup) : Bool := markup.all Piece.isPlain

@[simp] theorem isPlain_nil : isPlain [] = true := rfl

@[simp] theorem isPlain_cons (piece : Piece) (markup : Markup) :
    isPlain (piece :: markup) = (piece.isPlain && isPlain markup) := rfl

@[simp] theorem isPlain_append (first second : Markup) :
    isPlain (first ++ second) = (isPlain first && isPlain second) := List.all_append

@[simp] theorem isPlain_line (indent : Nat) (content : Markup) :
    isPlain (line indent content) = isPlain content := by
  have hend : (Piece.markup "\n").isPlain = true := by decide
  simp [line, hend]

@[simp] theorem isPlain_shownIf (indent : Nat) (shown : Bool) (content : Markup) :
    isPlain (shownIf indent shown content) = (!shown || isPlain content) := by
  cases shown <;> simp [shownIf]

@[simp] theorem isPlain_flatMap {α : Type} (items : List α) (content : α → Markup) :
    isPlain (items.flatMap content) = items.all fun item => isPlain (content item) :=
  List.all_flatMap

@[simp] theorem isPlain_forEach {α : Type} (indent : Nat) (items : List α)
    (content : α → Markup) :
    isPlain (forEach indent items content) = items.all fun item => isPlain (content item) := by
  simp [forEach]

@[simp] theorem isPlain_around (before text after : String) :
    isPlain (around before text after) =
      (text.isEmpty || ((Piece.markup before).isPlain && (Piece.markup after).isPlain)) := by
  unfold around
  cases text.isEmpty <;> simp

@[simp] theorem isPlain_webLink (address : String) : isPlain (webLink address) = true := rfl

theorem places_of_isPlain {markup : Markup} (h : isPlain markup = true) {pattern : Pattern}
    (hpattern : pattern ∈ Pattern.ofActive) : markup.places pattern = 0 := by
  induction markup with
  | nil => rfl
  | cons piece later ih =>
      rw [isPlain_cons, Bool.and_eq_true] at h
      have hpiece : piece.places pattern = 0 :=
        beq_iff_eq.mp (List.all_eq_true.mp h.1 pattern hpattern)
      rw [places_cons, hpiece, ih h.2]

end Markup

/-! ### Tables -/

theorem Cell.isPlain_entries (link : Bool) (lines : List String) :
    isPlain (Cell.entries link lines) = true := by
  have hentry (text : String) : isPlain (Cell.entry link text) = true := by
    unfold Cell.entry
    split <;> rfl
  fun_induction Cell.entries link lines with
  | case1 => rfl
  | case2 text => exact hentry text
  | case3 text next later ih =>
      have hbreak : (Piece.markup "<br>").isPlain = true := by decide
      simp [hentry, hbreak, ih]

theorem Row.isPlain_markup (row : Row) : isPlain row.markup = true := by
  have hcell (cell : Cell) : isPlain cell.markup = true := by
    simp +decide [Cell.markup, Cell.isPlain_entries]
  simp +decide [Row.markup, hcell]

theorem TableId.isPlain_head (id : TableId) (sortable : Bool) :
    id.columns.all (fun column => isPlain (Column.head id sortable column)) = true := by
  cases id <;> cases sortable <;> decide +kernel

theorem Table.isPlain_remark (table : Table) {empty : String}
    (h : (Piece.markup empty).isPlain = true) : isPlain (table.remark empty) = true := by
  obtain ⟨id, rows⟩ := table
  have hcolumns :
      (Piece.markup (String.ofList (Decimal.natural id.columns.length))).isPlain = true := by
    cases id <;> decide +kernel
  simp +decide [remark, hcolumns, h]

theorem Table.isPlain_markup (table : Table) {empty : String} (sortable : Bool)
    (h : (Piece.markup empty).isPlain = true) :
    isPlain (table.markup empty sortable) = true := by
  have hname : (Piece.markup table.id.name).isPlain = true := by
    cases table.id <;> decide
  simp +decide [markup, hname, TableId.isPlain_head, Row.isPlain_markup, table.isPlain_remark h]

/-! ### Panes -/

theorem Route.isPlain_markup (route : Route) : isPlain route.markup = true := by
  unfold markup
  split <;> split <;> simp +decide

theorem Panel.isPlain_markup (panel : Panel) : isPlain panel.markup = true := by
  simp +decide [markup]

namespace Dashboard

variable (dashboard : Dashboard)

theorem isPlain_statusPane : isPlain dashboard.statusPane = true := by
  have htable : isPlain ((dashboard.table .devices).markup "No devices found" false) = true :=
    Table.isPlain_markup _ false (by decide)
  unfold statusPane
  cases dashboard.overview.defaultRoute <;> simp +decide [Route.isPlain_markup, htable]

theorem isPlain_versionsPane : isPlain dashboard.versionsPane = true := by
  unfold versionsPane
  cases dashboard.versions.panel <;>
    simp +decide [refreshForm, statusMarkup, Panel.isPlain_markup]

/-- What is shown in a pane is plain, whatever it says. -/
theorem isPlain_paneContent (tab : Tab) : isPlain (dashboard.paneContent tab) = true := by
  have htable (id : TableId) {empty : String} (h : (Piece.markup empty).isPlain = true) :
      isPlain (dashboard.tableMarkup id empty) = true := Table.isPlain_markup _ true h
  cases tab with
  | status => exact dashboard.isPlain_statusPane
  | olsr => exact htable .links (by decide)
  | neighbors => exact htable .neighbors (by decide)
  | olsr2 => rfl
  | connections =>
      have hports := htable .connections (show (Piece.markup "").isPlain = true by decide)
      simp +decide [paneContent, connectionsPane, refreshForm, statusMarkup, hports]
  | versions => exact dashboard.isPlain_versionsPane
  | traceroute =>
      have hhops := htable .traceroute (show (Piece.markup "").isPlain = true by decide)
      simp +decide [paneContent, traceroutePane, hhops]
  | admin => simp +decide [paneContent, adminPane, loginLink]

theorem isPlain_pageHead : isPlain dashboard.pageHead = true := by simp +decide [pageHead]

theorem isPlain_navigation : isPlain dashboard.navigation = true := by
  simp +decide [navigation, loginLink]

theorem isPlain_alerts : isPlain dashboard.alerts = true := by simp +decide [alerts, alert]

end Dashboard

/-! ## Which tab is active -/

namespace Tab

variable {dashboard : Dashboard}

theorem ofId?_id (tab : Tab) : ofId? tab.id = some tab := by cases tab <;> rfl

theorem id_of_ofId? {id : String} {tab : Tab} (h : ofId? id = some tab) : tab.id = id := by
  unfold ofId? at h
  have hid := List.find?_some h
  simpa using hid

theorem isVisible_active (dashboard : Dashboard) (requested : Option String) :
    (active dashboard requested).isVisible dashboard = true := by
  unfold active
  cases h : (requested.bind ofId?).filter (isVisible dashboard) with
  | none => rfl
  | some tab => exact (Option.filter_eq_some_iff.mp h).2

/-- A tab that is there is active if it is asked for. -/
theorem active_of_isVisible {tab : Tab} (h : tab.isVisible dashboard = true) :
    active dashboard (some tab.id) = tab := by
  unfold active
  rw [Option.bind_some, ofId?_id, Option.filter_some, if_pos h, Option.getD_some]

/-- If none of the tabs that are there is asked for, it is the status. -/
theorem active_of_forall_ne {requested : Option String}
    (h : ∀ tab : Tab, tab.isVisible dashboard = true → requested ≠ some tab.id) :
    active dashboard requested = .status := by
  unfold active
  cases hfound : (requested.bind ofId?).filter (isVisible dashboard) with
  | none => rfl
  | some tab =>
      obtain ⟨hid, hvisible⟩ := Option.filter_eq_some_iff.mp hfound
      obtain ⟨id, hrequested, hid⟩ := Option.bind_eq_some_iff.mp hid
      exact absurd (id_of_ofId? hid ▸ hrequested) (h tab hvisible)

/-- An empty name asks for no tab. -/
theorem active_filter (dashboard : Dashboard) (requested : Option String) :
    active dashboard (requested.filter fun tab => !tab.isEmpty) = active dashboard requested := by
  unfold active
  cases requested with
  | none => rfl
  | some id =>
      rw [Option.filter_some]
      split
      · rfl
      · next hempty =>
          obtain rfl : id = "" := by simpa using hempty
          rfl

/-- The bar has the active tab once. -/
theorem exists_bar_eq {active : Tab} (h : active.isVisible dashboard = true) :
    ∃ left right, bar dashboard = left ++ active :: right ∧ active ∉ left ∧ active ∉ right := by
  have hall : active ∈ all := by cases active <;> decide
  have hnodup : (bar dashboard).Nodup := List.Nodup.filter _ (by decide)
  obtain ⟨left, right, hbar⟩ := List.append_of_mem (List.mem_filter.mpr ⟨hall, h⟩)
  have hbar : bar dashboard = left ++ active :: right := hbar
  rw [hbar, List.nodup_middle, List.nodup_cons, List.mem_append, not_or] at hnodup
  exact ⟨left, right, hbar, hnodup.1⟩

theorem isPlain_markup_of_ne {active tab : Tab} (h : tab ≠ active) :
    isPlain (Tab.markup active tab) = true := by
  unfold markup
  rw [if_neg h]
  cases tab <;> decide +kernel

end Tab

/-! ## The page -/

/-- A part of a page that is plain in front of another part and behind it. -/
def Markup.PlainAround (core markup : Markup) : Prop :=
  ∃ before after : Markup,
    markup = before ++ core ++ after ∧ before.isPlain = true ∧ after.isPlain = true

namespace Markup.PlainAround

variable {core markup : Markup}

theorem ahead {first : Markup} (hfirst : first.isPlain = true) (h : PlainAround core markup) :
    PlainAround core (first ++ markup) := by
  obtain ⟨before, after, rfl, hbefore, hafter⟩ := h
  exact ⟨first ++ before, after, by simp, by simp [hfirst, hbefore], hafter⟩

theorem behind {second : Markup} (h : PlainAround core markup) (hsecond : second.isPlain = true) :
    PlainAround core (markup ++ second) := by
  obtain ⟨before, after, rfl, hbefore, hafter⟩ := h
  exact ⟨before, after ++ second, by simp, hbefore, by simp [hsecond, hafter]⟩

theorem line {more : Markup} (hmore : more.isPlain = true) (indent : Nat) :
    PlainAround core (Markup.line indent (core ++ more)) := by
  have hend : (Piece.markup "\n").isPlain = true := by decide
  exact ⟨[.markup (String.ofList (List.replicate indent ' '))], more ++ [.markup "\n"],
    by simp [Markup.line], by simp, by simp [hmore, hend]⟩

theorem places_eq (h : PlainAround core markup) {pattern : Pattern}
    (hpattern : pattern ∈ Pattern.ofActive) : markup.places pattern = core.places pattern := by
  obtain ⟨before, after, rfl, hbefore, hafter⟩ := h
  rw [places_append, places_append, places_of_isPlain hbefore hpattern,
    places_of_isPlain hafter hpattern, Nat.zero_add, Nat.add_zero]

theorem exists_chars_eq (h : PlainAround core markup) :
    ∃ before after, markup.chars = before ++ core.chars ++ after := by
  obtain ⟨before, after, rfl, -, -⟩ := h
  exact ⟨before.chars, after.chars, by simp⟩

end Markup.PlainAround

/-- The link of the active tab, in its place in the bar. -/
def Tab.activeLink (tab : Tab) : Markup :=
  [.markup "<li class=\"active\">", .markup "<a href=\"/?tab=", .markup tab.id, .markup "\">"]

/-- The start of the pane of a tab. -/
def Tab.paneStart (tab : Tab) : Markup :=
  [.markup "<div class=\"tab-pane active\" id=\"tab-", .markup tab.id, .markup "\">"]

theorem Tab.chars_activeLink (tab : Tab) :
    tab.activeLink.chars = ("<li class=\"active\"><a href=\"/?tab=" ++ tab.id ++ "\">").toList := by
  cases tab <;> decide +kernel

theorem Tab.chars_paneStart (tab : Tab) :
    tab.paneStart.chars =
      ("<div class=\"tab-pane active\" id=\"tab-" ++ tab.id ++ "\">").toList := by
  cases tab <;> decide +kernel

namespace Dashboard

variable (dashboard : Dashboard)

theorem plainAround_tabBar {active : Tab} (h : active.isVisible dashboard = true) :
    PlainAround active.activeLink (dashboard.tabBar active) := by
  obtain ⟨left, right, hbar, hleft, hright⟩ := Tab.exists_bar_eq h
  have hothers (tabs : List Tab) (h : active ∉ tabs) :
      isPlain (tabs.flatMap fun tab => Tab.markup active tab ++ line 4 []) = true := by
    rw [isPlain_flatMap, List.all_eq_true]
    intro tab htab
    have hplain := Tab.isPlain_markup_of_ne fun heq : tab = active => h (heq ▸ htab)
    simp [hplain]
  have hactive : PlainAround active.activeLink (Tab.markup active active) := by
    have hlabel : isPlain [.markup active.label, .markup "</a></li>"] = true := by
      cases active <;> decide
    unfold Tab.markup
    rw [if_pos rfl]
    exact .line hlabel 4
  have hline : isPlain (line 4 []) = true := isPlain_line 4 []
  have hlist : isPlain (line 2 [.markup "<ul id=\"mainTabs\" class=\"nav nav-tabs\">"]) = true := by
    decide
  have hlistEnd : isPlain (line 2 [.markup "</ul>"]) = true := by decide
  have hrest := (hactive.behind hline).behind (hothers right hright)
  have htabs := (hrest.ahead (hothers left hleft)).ahead hline
  unfold tabBar forEach
  rw [hbar, List.flatMap_append, List.flatMap_cons]
  exact (htabs.ahead hlist).behind hlistEnd

theorem plainAround_pane (tab : Tab) : PlainAround tab.paneStart (dashboard.pane tab) := by
  have hstart : PlainAround tab.paneStart (line 2 (tab.paneStart ++ [])) := .line rfl 2
  have hend : isPlain (line 2 [.markup "</div>"]) = true := by decide
  exact (hstart.behind (dashboard.isPlain_paneContent tab)).behind hend

/-- A page is plain around the link of its active tab, and behind that around the start of the pane
of the same tab. -/
theorem exists_page_eq (requested : Option String) :
    let active := Tab.active dashboard requested
    ∃ top bottom : Markup, dashboard.page requested = top ++ bottom ∧
      PlainAround active.activeLink top ∧ PlainAround active.paneStart bottom := by
  intro active
  have hbar := dashboard.plainAround_tabBar (Tab.isVisible_active dashboard requested)
  have hpane := dashboard.plainAround_pane active
  have hblank (indent : Nat) : isPlain (line indent []) = true := isPlain_line indent []
  have hbody : isPlain (line 0 [.markup "<body>"]) = true := by decide
  have hbodyEnd : isPlain (line 0 [.markup "</body>"]) = true := by decide
  have hend : isPlain (line 0 [.markup "</html>"]) = true := by decide
  have hfront : isPlain (dashboard.pageHead ++ line 0 [.markup "<body>"] ++ dashboard.navigation ++
      line 0 [] ++ dashboard.alerts ++ line 0 []) = true := by
    simp [isPlain_pageHead, isPlain_navigation, isPlain_alerts, hbody, hblank]
  have hshown := ((hpane.behind (hblank 2)).ahead (hblank 2)).ahead (hblank 0)
  refine ⟨_, _, ?_, hbar.ahead hfront, (hshown.behind hbodyEnd).behind hend⟩
  simp [page, shownIf, active]

/-- The link and the pane stand on the page, in this order. -/
theorem exists_chars_page_eq (requested : Option String) :
    let active := Tab.active dashboard requested
    ∃ before between after, (dashboard.page requested).chars =
      before ++ active.activeLink.chars ++ between ++ active.paneStart.chars ++ after := by
  intro active
  obtain ⟨top, bottom, hpage, htop, hbottom⟩ := dashboard.exists_page_eq requested
  obtain ⟨before, middle, htop⟩ := htop.exists_chars_eq
  obtain ⟨middle', after, hbottom⟩ := hbottom.exists_chars_eq
  exact ⟨before, middle ++ middle', after, by simp [hpage, htop, hbottom, active]⟩

theorem places_page (requested : Option String) {pattern : Pattern}
    (h : pattern ∈ Pattern.ofActive) : (dashboard.page requested).places pattern = 1 := by
  obtain ⟨top, bottom, hpage, htop, hbottom⟩ := dashboard.exists_page_eq requested
  rw [hpage, places_append, htop.places_eq h, hbottom.places_eq h]
  simp only [Pattern.ofActive, List.mem_cons, List.not_mem_nil, or_false] at h
  rcases h with rfl | rfl <;> cases Tab.active dashboard requested <;> decide +kernel

theorem infix_page (requested : Option String) {pattern : Pattern}
    (h : pattern ∈ Pattern.ofActive) :
    pattern.chars <:+: (dashboard.page requested).chars := by
  obtain ⟨before, between, after, hpage⟩ := dashboard.exists_chars_page_eq requested
  rw [hpage]
  simp only [Pattern.ofActive, List.mem_cons, List.not_mem_nil, or_false] at h
  rcases h with rfl | rfl
  · have hlink (tab : Tab) : Pattern.activeTab.chars <:+: tab.activeLink.chars := by
      cases tab <;> decide +kernel
    rw [List.append_assoc, List.append_assoc]
    exact (hlink _).trans ⟨before, _, rfl⟩
  · have hpane (tab : Tab) : Pattern.activePane.chars <:+: tab.paneStart.chars := by
      cases tab <;> decide +kernel
    exact (hpane _).trans ⟨_, after, rfl⟩

/-- There is one place for each of the patterns, and there it stands. -/
theorem occurrences_page (requested : Option String) {pattern : Pattern}
    (h : pattern ∈ Pattern.ofActive) :
    Text.occurrences pattern.chars (dashboard.page requested).chars = 1 := by
  have hmost := (dashboard.page requested).occurrences_le_places pattern
  have hleast := Text.occurrences_pos (dashboard.infix_page requested h)
  rw [dashboard.places_page requested h] at hmost
  exact Nat.le_antisymm hmost hleast

end Dashboard

/-- **One active tab and its pane.** Whatever texts the dashboard holds and whichever tab is asked
for, the page has one link that is marked as active and one pane. The link is that of a tab that is
there, and the pane that of the same tab. It is the tab that was asked for if that is there, and
else the tab of the status. -/
theorem one_active_tab (console : Console) (order : LoadOrder) (query : List Char)
    (requested : Option String) (h : parameter? query "tab" = .ok requested) :
    let response := (console.handle order ⟨"GET", ⟨['/'], query⟩⟩).2
    let page := response.body.toList
    response.status = .ok ∧ response.contentType = some "text/html; charset=utf-8" ∧
      Text.occurrences "<li class=\"active\">".toList page = 1 ∧
      Text.occurrences "class=\"tab-pane active\"".toList page = 1 ∧
      ∃ active : Tab, active.isVisible console.dashboard = true ∧
        (∀ tab : Tab, tab.isVisible console.dashboard = true → requested = some tab.id →
          active = tab) ∧
        ((∀ tab : Tab, tab.isVisible console.dashboard = true → requested ≠ some tab.id) →
          active = .status) ∧
        ∃ before between after : List Char, page =
          before ++ ("<li class=\"active\"><a href=\"/?tab=" ++ active.id ++ "\">").toList ++
            between ++ ("<div class=\"tab-pane active\" id=\"tab-" ++ active.id ++ "\">").toList ++
            after := by
  intro response page
  let tab := requested.filter fun tab => !tab.isEmpty
  have hresponse : response = .html (console.dashboard.page tab).render := by
    show (console.handle order _).2 = _
    rw [Console.handle_of_accepted (Action.ofRequest_page rfl rfl h)]
    rfl
  have hpage : page = (console.dashboard.page tab).chars := by
    show response.body.toList = _
    rw [hresponse]
    exact toList_render _
  have honce {pattern : Pattern} (hpattern : pattern ∈ Pattern.ofActive) :
      Text.occurrences pattern.chars page = 1 := by
    rw [hpage]
    exact console.dashboard.occurrences_page tab hpattern
  have hlink : Text.occurrences Pattern.activeTab.chars page = 1 := honce List.mem_cons_self
  have hpane : Text.occurrences Pattern.activePane.chars page = 1 :=
    honce (List.mem_cons_of_mem _ (List.mem_singleton_self _))
  obtain ⟨before, between, after, hchars⟩ := console.dashboard.exists_chars_page_eq tab
  rw [Tab.chars_activeLink, Tab.chars_paneStart, ← hpage, Tab.active_filter] at hchars
  refine ⟨by rw [hresponse]; rfl, by rw [hresponse]; rfl, hlink, hpane,
    Tab.active console.dashboard requested, Tab.isVisible_active _ _, ?asked,
    Tab.active_of_forall_ne, before, between, after, hchars⟩
  case asked =>
    rintro tab hvisible rfl
    exact Tab.active_of_isVisible hvisible

/-- A host name that looks like an active tab changes nothing. The tab of the second routing
protocol is shown where it is there. Where it is not, it is the status. -/
theorem one_active_tab_forged :
    let dashboard := { Dashboard.initial with
      overview.hostname := "<li class=\"active\"><div class=\"tab-pane active\""
      overview.olsr2On := true }
    let query := Form.encodePair ("tab", "olsr2")
    let request : Request := ⟨"GET", ⟨['/'], query⟩⟩
    let console : Console := ⟨Node.atTest, .standard, dashboard⟩
    let empty := Console.initial Node.atTest .standard
    let page := (console.handle .directoryFirst request).2.body.toList
    let emptyPage := (empty.handle .directoryFirst request).2.body.toList
    parameter? query "tab" = .ok (some "olsr2") ∧
      Text.occurrences "<li class=\"active\">".toList page = 1 ∧
      Text.occurrences "class=\"tab-pane active\"".toList page = 1 ∧
      (∃ before between after : List Char, page =
        before ++ "<li class=\"active\"><a href=\"/?tab=olsr2\">".toList ++ between ++
          "<div class=\"tab-pane active\" id=\"tab-olsr2\">".toList ++ after) ∧
      ∃ before between after : List Char, emptyPage =
        before ++ "<li class=\"active\"><a href=\"/?tab=status\">".toList ++ between ++
          "<div class=\"tab-pane active\" id=\"tab-status\">".toList ++ after := by
  intro dashboard query request console empty page emptyPage
  have hquery : parameter? query "tab" = .ok (some "olsr2") :=
    Request.parameter?_encodePair "tab" "olsr2"
  obtain ⟨-, -, hlink, hpane, active, -, hasked, -, hpage⟩ :=
    one_active_tab console .directoryFirst query (some "olsr2") hquery
  obtain ⟨-, -, -, -, active', -, -, hother, hpage'⟩ :=
    one_active_tab empty .directoryFirst query (some "olsr2") hquery
  obtain rfl : active = .olsr2 := hasked .olsr2 rfl rfl
  obtain rfl : active' = .status := by
    refine hother fun tab hvisible hname => ?_
    cases tab <;> first | exact absurd hvisible (by decide) | exact absurd hname (by decide)
  exact ⟨hquery, hlink, hpane, hpage, hpage'⟩

end MeshConsole
