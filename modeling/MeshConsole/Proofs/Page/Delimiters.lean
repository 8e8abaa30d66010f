import MeshConsole.Page.Basic
import Mathlib.Data.List.Forall2

/-!
# Texts and the delimiters of a page

A browser tells tags and attributes from text by four characters. Texts are escaped, so they bring
none of them:

    page ──delimiters──▶ the `<`, `>`, quotes and apostrophes of its markup

Which markup there is depends on what is shown, not on what it says. Two dashboards are alike if
the same things are there in both, and the pages of dashboards that are alike have the same
delimiters (`page_delimiters_eq`).
-/

namespace MeshConsole

/-! ## Delimiters -/

/-- A character that begins or ends a tag or the value of an attribute. -/
def Piece.isDelimiter (c : Char) : Bool := c == '<' || c == '>' || c == '"' || c == '\''

theorem Piece.not_isDelimiter_of_mem {cs : List Char}
    (h : (cs.all fun c => !isDelimiter c) = true) {d : Char} (hd : d ∈ cs) :
    isDelimiter d = false := by
  simpa using List.all_eq_true.mp h d hd

theorem Piece.not_isDelimiter_of_mem_escapeChar {c d : Char} (h : d ∈ escapeChar c) :
    isDelimiter d = false := by
  unfold escapeChar at h
  split at h
  case h_7 hamp hlt hgt hquote hapostrophe _ =>
    -- A character that stands for itself is none of those that are escaped.
    obtain rfl := List.mem_singleton.mp h
    simp only [isDelimiter, Bool.or_eq_false_iff, beq_eq_false_iff_ne]
    exact ⟨⟨⟨hlt, hgt⟩, hquote⟩, hapostrophe⟩
  all_goals exact not_isDelimiter_of_mem (by decide) h

/-- An escaped text has no delimiter in it. -/
theorem Piece.not_isDelimiter_of_mem_escape {cs : List Char} {d : Char} (h : d ∈ escape cs) :
    isDelimiter d = false := by
  obtain ⟨c, -, hc⟩ := List.mem_flatMap.mp h
  exact not_isDelimiter_of_mem_escapeChar hc

namespace Markup

@[simp] theorem toList_render (markup : Markup) : markup.render.toList = markup.chars :=
  String.toList_ofList

/-- The delimiters of a part of a page, in the order in which they stand. -/
def delimiters (markup : Markup) : List Char := markup.chars.filter Piece.isDelimiter

@[simp] theorem delimiters_nil : delimiters [] = [] := rfl

@[simp] theorem delimiters_append (first second : Markup) :
    delimiters (first ++ second) = delimiters first ++ delimiters second := by
  simp [delimiters]

@[simp] theorem delimiters_markup_cons (source : String) (markup : Markup) :
    delimiters (.markup source :: markup) =
      source.toList.filter Piece.isDelimiter ++ delimiters markup := by
  simp [delimiters, Piece.chars]

/-- A text adds nothing. -/
@[simp] theorem delimiters_text_cons (text : String) (markup : Markup) :
    delimiters (.text text :: markup) = delimiters markup := by
  have hnone : (Piece.escape text.toList).filter Piece.isDelimiter = [] := by
    apply List.filter_eq_nil_iff.mpr
    intro c hc
    simp [Piece.not_isDelimiter_of_mem_escape hc]
  simp [delimiters, Piece.chars, hnone]

@[simp] theorem delimiters_line (indent : Nat) (content : Markup) :
    delimiters (line indent content) = delimiters content := by
  have hspaces : (List.replicate indent ' ').filter Piece.isDelimiter = [] := by
    apply List.filter_eq_nil_iff.mpr
    intro c hc
    rw [List.eq_of_mem_replicate hc]
    decide
  have hend : Piece.isDelimiter '\n' = false := by decide
  simp [line, hspaces, hend]

@[simp] theorem delimiters_shownIf (indent : Nat) (shown : Bool) (content : Markup) :
    delimiters (shownIf indent shown content) = if shown then delimiters content else [] := by
  cases shown <;> simp [shownIf]

@[simp] theorem delimiters_flatMap {α : Type} (items : List α) (content : α → Markup) :
    delimiters (items.flatMap content) = items.flatMap fun item => delimiters (content item) := by
  induction items with
  | nil => rfl
  | cons item later ih => simp [ih]

@[simp] theorem delimiters_forEach {α : Type} (indent : Nat) (items : List α)
    (content : α → Markup) :
    delimiters (forEach indent items content) =
      items.flatMap fun item => delimiters (content item) := by
  simp [forEach]

end Markup

/-! ## Dashboards that are alike -/

/-- Two texts are alike if both are empty or both are not. -/
def Text.Alike (first second : String) : Prop := first.isEmpty = second.isEmpty

/-- Two texts that may be missing are alike if both are there and alike, or both are missing. -/
abbrev Text.Alike? : Option String → Option String → Prop := Option.Rel Text.Alike

/-- Two cells are alike if they have as many lines, alike each with each, and if both are links or
both are not. -/
structure Cell.Alike (first second : Cell) : Prop where
  lines : List.Forall₂ Text.Alike first.lines second.lines
  link : first.link = second.link

/-- Rows are alike if they are as many, with as many cells each, and the cells are alike. -/
abbrev Row.AllAlike : List Row → List Row → Prop := List.Forall₂ (List.Forall₂ Cell.Alike)

structure CapabilitiesRegion.Alike (first second : CapabilitiesRegion) : Prop where
  reachable : first.reachable = second.reachable
  traceroute : first.traceroute = second.traceroute
  showAdminLink : first.showAdminLink = second.showAdminLink
  error : Text.Alike? first.error second.error

structure Route.Alike (first second : Route) : Prop where
  hostname : Text.Alike first.hostname second.hostname
  ip : Text.Alike first.ip second.ip
  device : Text.Alike first.device second.device

structure Overview.Alike (first second : Overview) : Prop where
  hostname : Text.Alike first.hostname second.hostname
  ip : Text.Alike first.ip second.ip
  uptime : Text.Alike first.uptime second.uptime
  defaultRoute : Option.Rel Route.Alike first.defaultRoute second.defaultRoute
  adminUrl : Text.Alike? first.adminUrl second.adminUrl
  olsr2On : first.olsr2On = second.olsr2On
  olsr2Info : Text.Alike first.olsr2Info second.olsr2Info
  error : Text.Alike? first.error second.error

structure ConnectionsRegion.Alike (first second : ConnectionsRegion) : Prop where
  status : Text.Alike first.status second.status
  rows : Row.AllAlike first.rows second.rows

structure PanelEntry.Alike (first second : PanelEntry) : Prop where
  label : Text.Alike first.label second.label
  value : Text.Alike first.value second.value

structure Panel.Alike (first second : Panel) : Prop where
  entries : List.Forall₂ PanelEntry.Alike first.entries second.entries
  raw : Text.Alike? first.raw second.raw
  note : Text.Alike? first.note second.note

structure VersionsRegion.Alike (first second : VersionsRegion) : Prop where
  status : Text.Alike first.status second.status
  panel : Option.Rel Panel.Alike first.panel second.panel

structure TraceRegion.Alike (first second : TraceRegion) : Prop where
  target : Text.Alike first.target second.target
  summary : Text.Alike first.summary second.summary
  raw : Text.Alike? first.raw second.raw
  rows : Row.AllAlike first.rows second.rows
  userRun : first.userRun = second.userRun

/-- Two dashboards are alike if they agree in everything but what their texts say. The directory and
the keys are not shown and may differ. -/
structure Dashboard.Alike (first second : Dashboard) : Prop where
  capabilities : first.capabilities.Alike second.capabilities
  overview : first.overview.Alike second.overview
  frequencyWarning : first.frequencyWarning = second.frequencyWarning
  devices : Row.AllAlike first.devices second.devices
  links : Row.AllAlike first.links second.links
  neighbors : Row.AllAlike first.neighbors second.neighbors
  connections : first.connections.Alike second.connections
  versions : first.versions.Alike second.versions
  traceroute : first.traceroute.Alike second.traceroute

theorem Text.Alike?.getD {first second : Option String} (h : Text.Alike? first second) :
    Text.Alike (first.getD "") (second.getD "") := by
  cases h with
  | some h => exact h
  | none => rfl

theorem Row.AllAlike.isEmpty_eq {first second : List Row} (h : AllAlike first second) :
    first.isEmpty = second.isEmpty := by
  cases h <;> rfl

theorem Text.Alike?.isSome_eq {first second : Option String} (h : Text.Alike? first second) :
    first.isSome = second.isSome := by
  cases h <;> rfl

/-! ## Delimiters of things that are alike -/

namespace Markup

/-- Items that are alike each with each have the same delimiters if each two of them have. -/
theorem flatMap_delimiters_congr {α : Type} {r : α → α → Prop} (content : α → Markup)
    (hcontent : ∀ item other, r item other →
      (content item).delimiters = (content other).delimiters)
    {items others : List α} (h : List.Forall₂ r items others) :
    (items.flatMap fun item => (content item).delimiters) =
      others.flatMap fun item => (content item).delimiters := by
  induction h with
  | nil => rfl
  | cons hitem _ ih => rw [List.flatMap_cons, List.flatMap_cons, hcontent _ _ hitem, ih]

/-- A part that is left out for an empty text and else does not depend on the text. -/
theorem delimiters_ite_congr {first second : String} (h : Text.Alike first second)
    (content : String → Markup)
    (hcontent : (content first).delimiters = (content second).delimiters) :
    delimiters (if first.isEmpty then [] else content first) =
      delimiters (if second.isEmpty then [] else content second) := by
  have hempty : first.isEmpty = second.isEmpty := h
  rw [hempty]
  split
  · rfl
  · exact hcontent

theorem delimiters_around_congr {first second : String} (h : Text.Alike first second)
    (before after : String) :
    (around before first after).delimiters = (around before second after).delimiters :=
  delimiters_ite_congr h (fun text => [.markup before, .text text, .markup after]) (by simp)

theorem delimiters_webLink_congr (first second : String) :
    (webLink first).delimiters = (webLink second).delimiters := by
  simp [webLink]

end Markup

open Markup

theorem Cell.delimiters_entry_congr {link : Bool} {first second : String}
    (h : Text.Alike first second) :
    (Cell.entry link first).delimiters = (Cell.entry link second).delimiters := by
  have hempty : first.isEmpty = second.isEmpty := h
  unfold Cell.entry
  rw [hempty]
  split
  · exact delimiters_webLink_congr first second
  · simp

theorem Cell.delimiters_entries_congr {link : Bool} {first second : List String}
    (h : List.Forall₂ Text.Alike first second) :
    (Cell.entries link first).delimiters = (Cell.entries link second).delimiters := by
  induction h with
  | nil => rfl
  | cons hline hlater ih =>
      -- The last line has no break behind it, so the lines that follow are looked at too.
      cases hlater with
      | nil => exact delimiters_entry_congr hline
      | cons hnext hrest =>
          unfold Cell.entries
          rw [delimiters_append, delimiters_append, delimiters_entry_congr hline,
            delimiters_markup_cons, delimiters_markup_cons, ih]

theorem Cell.Alike.delimiters_markup {first second : Cell} (h : first.Alike second) :
    first.markup.delimiters = second.markup.delimiters := by
  simp [Cell.markup, h.link, Cell.delimiters_entries_congr h.lines]

theorem Row.delimiters_markup_congr {first second : Row}
    (h : List.Forall₂ Cell.Alike first second) :
    (Row.markup first).delimiters = (Row.markup second).delimiters := by
  have hcells := flatMap_delimiters_congr Cell.markup (fun _ _ hcell => hcell.delimiters_markup) h
  simp [Row.markup, hcells]

theorem Table.delimiters_markup_congr {id : TableId} {first second : List Row}
    (h : Row.AllAlike first second) (empty : String) (sortable : Bool) :
    (Table.markup ⟨id, first⟩ empty sortable).delimiters =
      (Table.markup ⟨id, second⟩ empty sortable).delimiters := by
  have hrows := flatMap_delimiters_congr Row.markup
    (fun _ _ hrow => Row.delimiters_markup_congr hrow) h
  simp [Table.markup, Table.remark, h.isEmpty_eq, hrows]

theorem Route.Alike.delimiters_markup {first second : Route} (h : first.Alike second) :
    first.markup.delimiters = second.markup.delimiters := by
  have hhostname := delimiters_ite_congr h.hostname webLink
    (delimiters_webLink_congr first.hostname second.hostname)
  have hip := delimiters_ite_congr h.ip
    (fun ip => .markup "(" :: webLink ip ++ [.markup ")"])
    (by simp [delimiters_webLink_congr first.ip second.ip])
  simp only [Route.markup, delimiters_append, delimiters_line, hhostname, hip,
    delimiters_around_congr h.device]

theorem Panel.Alike.delimiters_markup {first second : Panel} (h : first.Alike second) :
    first.markup.delimiters = second.markup.delimiters := by
  have hentries := flatMap_delimiters_congr
    (fun entry : PanelEntry =>
      [.markup "<dt>", .text entry.label, .markup "</dt><dd>", .text entry.value, .markup "</dd>"])
    (fun _ _ _ => by simp) h.entries
  simp only [Panel.markup, delimiters_append, delimiters_line, delimiters_flatMap, hentries,
    delimiters_around_congr h.note.getD, delimiters_around_congr h.raw.getD]

/-! ## Tabs of dashboards that are alike -/

namespace Dashboard.Alike

variable {first second : Dashboard}

/-- The same tabs are there. -/
theorem isVisible_eq (h : first.Alike second) : Tab.isVisible first = Tab.isVisible second := by
  funext tab
  cases tab with
  | olsr => exact congrArg not h.links.isEmpty_eq
  | neighbors => exact congrArg not h.neighbors.isEmpty_eq
  | olsr2 => exact h.overview.olsr2On
  | traceroute =>
      simp [Tab.isVisible, h.capabilities.traceroute, h.traceroute.rows.isEmpty_eq]
  | admin => simp [Tab.isVisible, h.capabilities.showAdminLink, h.overview.adminUrl.isSome_eq]
  | _ => rfl

theorem active_eq (h : first.Alike second) (requested : Option String) :
    Tab.active first requested = Tab.active second requested := by
  simp [Tab.active, h.isVisible_eq]

theorem delimiters_table_eq (h : first.Alike second) (id : TableId) (empty : String)
    (sortable : Bool) :
    ((first.table id).markup empty sortable).delimiters =
      ((second.table id).markup empty sortable).delimiters := by
  cases id with
  | devices => exact Table.delimiters_markup_congr h.devices empty sortable
  | links => exact Table.delimiters_markup_congr h.links empty sortable
  | neighbors => exact Table.delimiters_markup_congr h.neighbors empty sortable
  | connections => exact Table.delimiters_markup_congr h.connections.rows empty sortable
  | traceroute => exact Table.delimiters_markup_congr h.traceroute.rows empty sortable

theorem delimiters_loginLink_eq (h : first.Alike second) (before : String) :
    (first.loginLink before).delimiters = (second.loginLink before).delimiters :=
  delimiters_around_congr h.overview.adminUrl.getD _ _

/-! ## Panes -/

theorem delimiters_statusPane_eq (h : first.Alike second) :
    first.statusPane.delimiters = second.statusPane.delimiters := by
  have hroute := h.overview.defaultRoute
  simp only [statusPane, delimiters_append, delimiters_line, delimiters_markup_cons,
    delimiters_text_cons, delimiters_shownIf, h.frequencyWarning,
    delimiters_around_congr h.traceroute.summary, h.delimiters_table_eq]
  -- Only the default route is left, which is there in both or in none.
  generalize first.overview.defaultRoute = route, second.overview.defaultRoute = other at hroute ⊢
  cases hroute with
  | some hroute => rw [hroute.delimiters_markup]
  | none => rfl

theorem delimiters_versionsPane_eq (h : first.Alike second) :
    first.versionsPane.delimiters = second.versionsPane.delimiters := by
  have hpanel := h.versions.panel
  simp only [versionsPane, statusMarkup, delimiters_append, delimiters_line,
    delimiters_around_congr h.versions.status]
  generalize first.versions.panel = panel, second.versions.panel = other at hpanel ⊢
  cases hpanel with
  | some hpanel => rw [hpanel.delimiters_markup]
  | none => rfl

theorem delimiters_traceroutePane_eq (h : first.Alike second) :
    first.traceroutePane.delimiters = second.traceroutePane.delimiters := by
  simp only [traceroutePane, tableMarkup, delimiters_append, delimiters_line,
    delimiters_markup_cons, delimiters_text_cons, delimiters_shownIf,
    delimiters_around_congr h.traceroute.raw.getD, h.traceroute.rows.isEmpty_eq,
    h.delimiters_table_eq]

/-- The content of each pane has the same delimiters. -/
theorem delimiters_paneContent_eq (h : first.Alike second) (tab : Tab) :
    (first.paneContent tab).delimiters = (second.paneContent tab).delimiters := by
  cases tab with
  | status => exact h.delimiters_statusPane_eq
  | olsr => exact h.delimiters_table_eq _ _ _
  | neighbors => exact h.delimiters_table_eq _ _ _
  | olsr2 => simp [paneContent, olsr2Pane]
  | connections =>
      simp only [paneContent, connectionsPane, statusMarkup, tableMarkup, delimiters_append,
        delimiters_line, delimiters_around_congr h.connections.status, h.delimiters_table_eq]
  | versions => exact h.delimiters_versionsPane_eq
  | traceroute => exact h.delimiters_traceroutePane_eq
  | admin => simp only [paneContent, adminPane, delimiters_line, h.delimiters_loginLink_eq]

theorem delimiters_alert_congr {first second : Option String} (h : Text.Alike? first second)
    (before : String) :
    (alert before first).delimiters = (alert before second).delimiters := by
  have hempty : (first.getD "").isEmpty = (second.getD "").isEmpty := h.getD
  simp only [alert, delimiters_shownIf, delimiters_line, hempty,
    delimiters_around_congr h.getD]

theorem delimiters_page_eq (h : first.Alike second) (requested : Option String) :
    (first.page requested).delimiters = (second.page requested).delimiters := by
  simp only [page, pageHead, navigation, alerts, tabBar, pane, Tab.bar, delimiters_append,
    delimiters_line, delimiters_markup_cons, delimiters_text_cons, delimiters_shownIf,
    delimiters_alert_congr h.capabilities.error, delimiters_alert_congr h.overview.error,
    h.active_eq, h.isVisible_eq, h.delimiters_loginLink_eq, h.delimiters_paneContent_eq]

end Dashboard.Alike

/-! ## Pages -/

/-- **Texts change no markup.** The pages of two dashboards that are alike have the same delimiters,
whatever tab is asked for and whatever the texts say. -/
theorem page_delimiters_eq {first second : Dashboard} (h : first.Alike second)
    (requested : Option String) :
    (first.page requested).render.toList.filter Piece.isDelimiter =
      (second.page requested).render.toList.filter Piece.isDelimiter := by
  rw [toList_render, toList_render]
  exact h.delimiters_page_eq requested

/-- A dashboard that shows a text as host name, as diagnostic and as the address of a hop. -/
def Dashboard.showing (text : String) : Dashboard :=
  { Dashboard.initial with
    capabilities.error := some text
    overview.hostname := text
    traceroute := ⟨text, text, none, [[⟨["1"], false⟩, ⟨[text], true⟩]], true⟩ }

/-- A text made of markup leaves the delimiters of the page as a harmless one does. -/
theorem page_delimiters_eq_showing :
    let harmless := Dashboard.showing "north"
    let hostile := Dashboard.showing "\"><script src='x'></script><a id=\""
    harmless.Alike hostile ∧
      (harmless.page (some "traceroute")).render.toList.filter Piece.isDelimiter =
        (hostile.page (some "traceroute")).render.toList.filter Piece.isDelimiter := by
  intro harmless hostile
  have halike : harmless.Alike hostile :=
    { capabilities := ⟨rfl, rfl, rfl, .some rfl⟩
      overview := ⟨rfl, rfl, rfl, .none, .none, rfl, rfl, .none⟩
      frequencyWarning := rfl
      devices := .nil
      links := .nil
      neighbors := .nil
      connections := ⟨rfl, .nil⟩
      versions := ⟨rfl, .none⟩
      traceroute :=
        ⟨rfl, rfl, .none,
          .cons (.cons ⟨.cons rfl .nil, rfl⟩ (.cons ⟨.cons rfl .nil, rfl⟩ .nil)) .nil, rfl⟩ }
  exact ⟨halike, page_delimiters_eq halike (some "traceroute")⟩

end MeshConsole
