import MeshConsole.Proofs.Table.Elements
import MeshConsole.Proofs.Table.Shape

/-!
# Names beside addresses

The row of a port has three cells with several lines. What stands in them is laid down by two
payloads, the connections and the node directory:

    macs ──one line for each item──▶ macs
    ips  ──one line for each item──▶ ips ──one line for each line, or none at all──▶ hostnames

A line is empty where there is nothing to show, so that whatever stands at a position of a cell
belongs to the item at that position (`Port.Aligned`).
-/

namespace MeshConsole

open Json (Fields)

/-! ## Lines of items -/

namespace Json

/-- A line shows an item of an array: it is the text of the item, or empty if the item is falsy. -/
def ShownAs (item : Json) (line : String) : Prop :=
  item.cellText? = some line ∨ item.IsFalsy ∧ line = ""

theorem shownAs_getD (item : Json) : item.ShownAs (item.cellText?.getD "") := by
  cases h : item.cellText? with
  | none => exact Or.inr ⟨cellText?_eq_none_iff.mp h, rfl⟩
  | some text => exact Or.inl h

instance (count : Nat) : DecidablePred (IsRecord count)
  | .object _ => .isTrue trivial
  | .array items => inferInstanceAs (Decidable (items.length ≤ count))
  | .null | .bool _ | .number _ | .text _ => .isFalse id

/-- The name that a directory gives to the node at an address. -/
def nodeName? (directory : Json) (ip : String) : Option String :=
  ((directory.field? ip).bind (field? "name")).bind cellText?

end Json

/-! ## The directory -/

namespace Directory

theorem name?_ofJson {body : String} {known : Json} (h : Json.read? body = some known)
    (ip : String) : (Directory.ofJson known).name? ip = known.nodeName? ip := by
  cases known with
  | object fields =>
      -- The keys are distinct, so a node without a name does not let another one show through.
      have hkeys := (Json.fields_increasing_of_read? h).keys_nodup
      refine (Json.lookup_filterMap hkeys
        (fun node => (Json.field? "name" node).bind Json.cellText?) ip).trans ?_
      exact (Option.bind_assoc _ _ _).symm
  | _ => rfl

variable {directory : Option Directory} {ips : List String}

/-- There are no lines if no address has a name. -/
theorem hostnames_eq_nil (h : ∀ ip ∈ ips, directory.bind (·.name? ip) = none) :
    hostnames directory ips = [] := by
  cases directory with
  | none => rfl
  | some directory =>
      refine if_pos (List.all_eq_true.mpr fun name hname => ?_)
      obtain ⟨ip, hip, rfl⟩ := List.mem_map.mp hname
      exact Option.isNone_iff_eq_none.mpr (h ip hip)

/-- If any address has a name there is a line for each. -/
theorem forall₂_hostnames (h : ∃ ip ∈ ips, directory.bind (·.name? ip) ≠ none) :
    List.Forall₂ (fun ip line => line = (directory.bind (·.name? ip)).getD "") ips
      (hostnames directory ips) := by
  obtain ⟨ip, hip, hname⟩ := h
  cases directory with
  | none => exact absurd rfl hname
  | some directory =>
      have hmap : hostnames (some directory) ips =
          ips.map fun ip => (directory.name? ip).getD "" := by
        refine (if_neg fun hall => hname ?_).trans List.map_map
        exact Option.isNone_iff_eq_none.mp (List.all_eq_true.mp hall _ (List.mem_map_of_mem hip))
      rw [hmap, List.forall₂_map_right_iff, List.forall₂_same]
      exact fun _ _ => rfl

end Directory

/-! ## Rows of ports -/

namespace Port

/-- Three cells stand beside each other for an item that is a port, with the names of a directory if
there is one. -/
structure Aligned (known : Option Json) (item : Json) (macs ips hostnames : Cell) : Prop where
  /-- There is a line for each item under `macs`, in order. -/
  shown_macs : List.Forall₂ Json.ShownAs (item.itemsUnder names "macs") macs.lines
  /-- There is a line for each item under `ips`, in order. -/
  shown_ips : List.Forall₂ Json.ShownAs (item.itemsUnder names "ips") ips.lines
  /-- Where no line of `ips` has a name there are no lines. -/
  hostnames_eq_nil : (∀ ip ∈ ips.lines, known.bind (Json.nodeName? · ip) = none) →
    hostnames.lines = []
  /-- Where any line has a name there is a line for each, in order. -/
  shown_hostnames : (∃ ip ∈ ips.lines, known.bind (Json.nodeName? · ip) ≠ none) →
    List.Forall₂ (fun ip line => line = (known.bind (Json.nodeName? · ip)).getD "")
      ips.lines hostnames.lines

/-- A row of the connections shows an item that is a port. -/
def ShownIn (known : Option Json) (item : Json) (row : Row) : Prop :=
  ∃ macs ips hostnames, TableId.connections.Under row "macs" macs ∧
    TableId.connections.Under row "ips" ips ∧
    TableId.connections.Under row "hostnames" hostnames ∧ Aligned known item macs ips hostnames

theorem shownAs_texts {item : Json} {fields : Fields}
    (h : ∀ name, fields.lookup name = item.under? names name) (name : String) :
    List.Forall₂ Json.ShownAs (item.itemsUnder names name) (fields.texts name) := by
  rw [Fields.texts_eq h, List.forall₂_map_right_iff, List.forall₂_same]
  exact fun part _ => part.shownAs_getD

variable {known : Option Json} {item : Json} {directory : Option Directory}

theorem shownIn_row (hnames : ∀ ip, directory.bind (·.name? ip) = known.bind (Json.nodeName? · ip))
    {port : Port} (h : Payload.ofJson? item = some port) :
    ShownIn known item (port.row directory) := by
  obtain ⟨fields, hfields, rfl⟩ := Option.map_eq_some_iff.mp h
  have hlookup := Json.lookup_of_recordFields? hfields
  refine ⟨_, _, _, ⟨"MACs", .tail _ (.tail _ (.head _))⟩,
    ⟨"IPs", .tail _ (.tail _ (.tail _ (.head _)))⟩,
    ⟨"Hostnames", .tail _ (.tail _ (.tail _ (.tail _ (.head _))))⟩, ?_⟩
  refine ⟨shownAs_texts hlookup "macs", shownAs_texts hlookup "ips", fun hnone => ?_,
    fun hsome => ?_⟩
  · simp only [← hnames] at hnone
    exact Directory.hostnames_eq_nil hnone
  · simp only [← hnames] at hsome ⊢
    exact Directory.forall₂_hostnames hsome

end Port

/-! ## Loads of connections -/

/-- What stands for the items that are kept, beside those items. -/
theorem forall₂_filter_filterMap {α β : Type} {R : α → β → Prop} {keep : α → Bool}
    {image? : α → Option β} {items : List α}
    (hkept : ∀ item, keep item = (image? item).isSome)
    (h : ∀ item image, image? item = some image → R item image) :
    List.Forall₂ R (items.filter keep) (items.filterMap image?) := by
  induction items with
  | nil => exact .nil
  | cons item later ih =>
      rw [List.filter_cons, List.filterMap_cons, hkept]
      cases himage : image? item with
      | none => exact ih
      | some image => exact .cons (h item image himage) ih

/-- The directory in use was decoded from a value that was read, or there is none. -/
def Dashboard.Knows (dashboard : Dashboard) (known : Option Json) : Prop :=
  dashboard.directory = known.map Directory.ofJson ∧
    ∀ directory ∈ known, ∃ body, Json.read? body = some directory

theorem Dashboard.Knows.name? {dashboard : Dashboard} {known : Option Json}
    (h : dashboard.Knows known) (ip : String) :
    dashboard.directory.bind (·.name? ip) = known.bind (Json.nodeName? · ip) := by
  rw [h.1]
  cases known with
  | none => rfl
  | some directory =>
      obtain ⟨body, hread⟩ := h.2 directory rfl
      exact Directory.name?_ofJson hread ip

namespace Branch

variable {deliver : Endpoint → Delivery} {dashboard : Dashboard} {exchange : Exchange}

theorem finished_loadConnections (h : (deliver .connections).exchange? = some exchange) :
    (loadConnections.run deliver dashboard).finished = true := by
  rw [finished_run, List.all_eq_true]
  intro asked hasked
  obtain rfl : asked = .connections := by simpa [loadConnections] using hasked
  rw [h]
  rfl

theorem knows_run_loadDirectory {directory : Json}
    (hexchange : (deliver .nodedb).exchange? = some exchange)
    (hvalue : exchange.value? Directory = some directory) :
    (loadDirectory.run deliver dashboard).dashboard.Knows (some directory) := by
  obtain ⟨found, hjson, hfound⟩ := Exchange.exists_json_of_value? hvalue
  have hshown : (loadDirectory.run deliver dashboard).dashboard =
      dashboard.keepDirectory (.ofJson directory) := by
    rw [dashboard_run, loadDirectory, reached, hexchange]
    dsimp only
    rw [hjson, ← Option.some.inj hfound]
    rfl
  rw [hshown]
  refine ⟨rfl, ?_⟩
  rintro read ⟨⟩
  cases exchange with
  | error fault => cases hvalue
  | ok answer =>
      unfold Exchange.value? at hvalue
      dsimp only at hvalue
      split at hvalue
      · exact ⟨answer.body, (Option.filter_eq_some_iff.mp hvalue).1⟩
      · cases hvalue

end Branch

/-- **Names stand beside their addresses.** Every item under `ports` that is a record has a row of its
own, in order. The cells of the row have a line for each item under `macs` and `ips`, and the names
that the directory gives to the lines of `ips` stand beside these. The directory is that of the last
load of it that succeeded. -/
theorem ports_shownIn :
    (∀ {deliver dashboard exchange value known},
      (deliver .connections).exchange? = some exchange →
      exchange.value? (Option Connections) = some value →
      dashboard.Knows known →
      (Branch.loadConnections.run deliver dashboard).finished = true ∧
        ∃ rows, List.Forall₂ (Port.ShownIn known)
            ((value.itemsUnder ["ports"] "ports").filter (Json.IsRecord Port.names.length)) rows ∧
          (Branch.loadConnections.run deliver dashboard).dashboard.connections.rows =
            ((⟨.connections, rows⟩ : Table).sortBy? (dashboard.sortKeys .connections)).rows) ∧
    (∀ {deliver dashboard exchange directory},
      (deliver .nodedb).exchange? = some exchange →
      exchange.value? Directory = some directory →
      (Branch.loadDirectory.run deliver dashboard).dashboard.Knows (some directory)) ∧
    Dashboard.initial.Knows none := by
  refine ⟨fun {deliver dashboard exchange value known} hexchange hvalue hknows => ?_,
    Branch.knows_run_loadDirectory, rfl, fun _ => nofun⟩
  have hfinished : ((TableId.connections.part.branch .standard).run deliver dashboard).finished =
      true := Branch.finished_loadConnections hexchange
  rw [← Delivery.exchange_eq hexchange] at hvalue
  obtain ⟨rows, hrendered, hshown⟩ := TableId.rows_run hfinished hvalue
  refine ⟨hfinished, rows, ?_, hshown⟩
  rw [TableId.rendered?_eq hrendered]
  refine forall₂_filter_filterMap (fun item => ?_) fun item row hrow => ?_
  · have hrow : (TableId.connections.row? value.status.radios dashboard.directory item).isSome ↔
        item.IsRecord Port.names.length := TableId.isSome_row?_iff
    rw [Bool.eq_iff_iff, decide_eq_true_iff, hrow]
  · obtain ⟨port, hport, rfl⟩ := Option.map_eq_some_iff.mp hrow
    exact Port.shownIn_row hknows.name? hport

/-- A node with a name for the last of three addresses, the second of which is missing. -/
def Script.gap : Script :=
  [("nodedb", .answer .ok
      (Text.encode "\x7b\"10.0.0.2\":\x7b\"name\":\"north\"\x7d,\"10.0.0.1\":\x7b\x7d\x7d".toList)),
   ("connections", .answer .ok
      (Text.encode ("\x7b\"ports\":[7,\x7b\"macs\":[\"aa\",null],".toList ++
        "\"ips\":[\"10.0.0.1\",false,\"10.0.0.2\"]\x7d]\x7d".toList)))]

/-- The name stands beside the last address, as the third line. -/
theorem ports_shownIn_gap :
    let node := Node.atTest.withScript .gap
    let dashboard := (Branch.loadDirectory.run node.deliver .initial).dashboard
    let after := Branch.loadConnections.run node.deliver dashboard
    ∃ exchange value directory,
      (node.deliver .connections).exchange? = some exchange ∧
      exchange.value? (Option Connections) = some value ∧ dashboard.Knows (some directory) ∧
      after.finished = true ∧
      (∃ rows, List.Forall₂ (Port.ShownIn (some directory))
          ((value.itemsUnder ["ports"] "ports").filter (Json.IsRecord Port.names.length)) rows ∧
        after.dashboard.connections.rows =
          ((⟨.connections, rows⟩ : Table).sortBy? (dashboard.sortKeys .connections)).rows) ∧
      after.dashboard.connections.rows.map (fun row => row.map Cell.lines) =
        [[[], [], ["aa", ""], ["10.0.0.1", "", "10.0.0.2"], ["", "", "north"], []]] := by
  intro node dashboard after
  have hrun : ((node.deliver .connections).exchange?.bind
      (Exchange.value? (Option Connections))).isSome = true ∧
        ((node.deliver .nodedb).exchange?.bind (Exchange.value? Directory)).isSome = true ∧
          after.dashboard.connections.rows.map (fun row => row.map Cell.lines) =
            [[[], [], ["aa", ""], ["10.0.0.1", "", "10.0.0.2"], ["", "", "north"], []]] := by
    decide +kernel
  obtain ⟨hconnections, hnodedb, hlines⟩ := hrun
  obtain ⟨value, hsome⟩ := Option.isSome_iff_exists.mp hconnections
  obtain ⟨exchange, hexchange, hvalue⟩ := Option.bind_eq_some_iff.mp hsome
  obtain ⟨directory, hsome⟩ := Option.isSome_iff_exists.mp hnodedb
  obtain ⟨names, hnames, hdirectory⟩ := Option.bind_eq_some_iff.mp hsome
  have hknows : dashboard.Knows (some directory) := ports_shownIn.2.1 hnames hdirectory
  obtain ⟨hfinished, hrows⟩ := ports_shownIn.1 hexchange hvalue hknows
  exact ⟨exchange, value, directory, hexchange, hvalue, hknows, hfinished, hrows, hlines⟩

end MeshConsole
