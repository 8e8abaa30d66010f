import MeshConsole.Proofs.Dashboard.Requests
import MeshConsole.Proofs.Payload.Members

/-!
# Tables item by item

Each table shows the records of one array in a payload. Its rows come about in two steps, and both go
through the array item by item:

    payload ──itemsUnder──▶ items ──ofJson?──▶ records ──row──▶ rows
                              └──────────── row? ───────────────┘

So an item that is a record has a row of its own in the place of the item, and any other item has
none. What a row depends on besides its item is said by `TableId.row?_congr`.
-/

namespace MeshConsole

open Json (Fields)

/-! ## Payloads that are records, or null -/

theorem Payload.isSome_record_iff {α : Type} {names : List String} {build : Fields → α}
    {value : Json} :
    ((Payload.record names build).ofJson? value).isSome ↔ value.IsRecord names.length := by
  rw [← Json.isSome_recordFields?_iff]
  exact Bool.eq_iff_iff.mp Option.isSome_map

theorem Payload.isSome_nullable_record_iff {α : Type} {names : List String} {build : Fields → α}
    {value : Json} :
    ((@instOption α (.record names build)).ofJson? value).isSome ↔
      value = .null ∨ value.IsRecord names.length := by
  cases value with
  | null => simp [ofJson?]
  | _ =>
      rw [← Json.isSome_recordFields?_iff]
      simp [ofJson?]

/-- The address of an item that is a device. -/
def Json.deviceAddress? (item : Json) : Option String :=
  (item.under? Device.names "ipv4").bind cellText?

theorem Device.ipv4_eq {item : Json} {device : Device}
    (h : Payload.ofJson? item = some device) : device.ipv4 = item.deviceAddress? := by
  obtain ⟨fields, hfields, rfl⟩ := Option.map_eq_some_iff.mp h
  show (fields.lookup "ipv4").bind Json.cellText? = _
  rw [Json.lookup_of_recordFields? hfields]
  rfl

/-! ## Loads that deliver a value -/

namespace Branch

variable {thresholds : Thresholds} {deliver : Endpoint → Delivery} {dashboard : Dashboard}
  {value : Json}

/-- A status that was delivered is shown once its load comes to its end. -/
theorem exists_showStatus
    (hfinished : ((loadStatus thresholds).run deliver dashboard).finished = true)
    (hvalue : (deliver .status).exchange.value? (Option Status) = some value) :
    ∃ (found : Option Status) (olsr2Info : String), Payload.ofJson? value = some found ∧
      ((loadStatus thresholds).run deliver dashboard).dashboard =
        dashboard.showStatus thresholds (found.getD .absent) olsr2Info := by
  obtain ⟨found, hjson, hfound⟩ := Exchange.exists_json_of_value? hvalue
  refine ⟨found, Part.olsr2Info (fun asked => (deliver asked).exchange) (found.getD .absent),
    hfound, ?_⟩
  rw [dashboard_of_finished hfinished]
  refine (Part.after_status thresholds _ dashboard).trans ?_
  rw [hjson]

/-- Connections that were delivered are shown with the directory of that time. -/
theorem exists_showConnections
    (hfinished : (loadConnections.run deliver dashboard).finished = true)
    (hvalue : (deliver .connections).exchange.value? (Option Connections) = some value) :
    ∃ found : Option Connections, Payload.ofJson? value = some found ∧
      (loadConnections.run deliver dashboard).dashboard =
        dashboard.awaitConnections.showConnections (.ok found) := by
  obtain ⟨found, hjson, hfound⟩ := Exchange.exists_json_of_value? hvalue
  refine ⟨found, hfound, ?_⟩
  rw [dashboard_of_finished hfinished, ← hjson]
  rfl

end Branch

/-! ## Where the records of a table stand -/

/-- The status that a value gives, or the absent one if it gives none. -/
def Json.status (value : Json) : Status :=
  (Payload.ofJson? value : Option (Option Status)).join.getD .absent

theorem Json.exists_status_fields {value : Json} {found : Option Status}
    (h : Payload.ofJson? value = some found) :
    found.getD .absent = value.status ∧ ∃ fields, value.status = .ofFields fields ∧
      ∀ name, fields.lookup name = value.under? Status.names name := by
  have hstatus : found.getD .absent = value.status := by
    unfold status
    rw [h]
    rfl
  obtain ⟨fields, hfields, hlookup⟩ := Payload.exists_fields h
  exact ⟨hstatus, fields, hstatus.symm.trans hfields, hlookup⟩

namespace TableId

/-- The part of the dashboard with which a table is loaded. -/
def part : TableId → Part
  | .connections => .connections
  | _ => .status

/-- The value that a fetch delivers of the payload in which the records of a table stand. -/
def delivered? (id : TableId) (exchange : Exchange) : Option Json :=
  match id with
  | .connections => exchange.value? (Option Connections)
  | _ => exchange.value? (Option Status)

/-- The names of the fields of the payload in which the records of a table stand. -/
def payloadNames : TableId → List String
  | .connections => ["ports"]
  | _ => Status.names

/-- The name under which the records of a table stand. -/
def listName : TableId → String
  | .devices => "devices"
  | .links => "links"
  | .neighbors => "neighbors"
  | .connections => "ports"
  | .traceroute => "trace_to_uplink"

/-- The names of the fields of a record. -/
def recordNames : TableId → List String
  | .devices => Device.names
  | .links => Link.names
  | .neighbors => Neighbor.names
  | .connections => Port.names
  | .traceroute => UplinkHop.names

/-- The items among which the records of a table stand. -/
def items (id : TableId) (value : Json) : List Json :=
  value.itemsUnder id.payloadNames id.listName

/-- The row of an item; none if the item is no record. -/
def row? (id : TableId) (radios : Radios) (directory : Option Directory) (item : Json) :
    Option Row :=
  match id with
  | .devices => (Payload.ofJson? item).map (Device.row radios)
  | .links => (Payload.ofJson? item).map Link.row
  | .neighbors => (Payload.ofJson? item).map Neighbor.row
  | .connections => (Payload.ofJson? item).map (Port.row directory)
  | .traceroute => (Payload.ofJson? item).map fun hop => (Trace.hopOfUplink hop).row

/-- The rows that are rendered from a payload, before any sort; none if it does not decode. -/
def rendered? (id : TableId) (directory : Option Directory) (value : Json) : Option (List Row) :=
  match id with
  | .devices => (Payload.ofJson? value).map fun found : Option Status =>
      (Table.ofDevices (found.getD .absent).radios (found.getD .absent).devices).rows
  | .links => (Payload.ofJson? value).map fun found : Option Status =>
      (Table.ofLinks (found.getD .absent).links).rows
  | .neighbors => (Payload.ofJson? value).map fun found : Option Status =>
      (Table.ofNeighbors (found.getD .absent).neighbors).rows
  | .connections => (Payload.ofJson? value).map fun found : Option Connections =>
      (Table.ofPorts directory (found.getD .absent).ports).rows
  | .traceroute => (Payload.ofJson? value).map fun found : Option Status =>
      (Table.ofHops (Trace.ofUplink (found.getD .absent).traceToUplink)).rows

/-- The rows that a table has after a load rendered the given ones. They are sorted by the key that
was asked for last. Only a trace is not sorted; it stays if there are no hops in its place, or if the
operator has run it. -/
def placed (id : TableId) (dashboard : Dashboard) (rows : List Row) : List Row :=
  match id with
  | .traceroute =>
    if rows.isEmpty || dashboard.traceroute.userRun then dashboard.traceroute.rows else rows
  | id => ((⟨id, rows⟩ : Table).sortBy? (dashboard.sortKeys id)).rows

/-! ## From items to rows -/

variable {id : TableId} {directory directory' : Option Directory} {radios radios' : Radios}
  {value item : Json} {rows : List Row}

theorem isSome_rendered?_iff :
    (id.rendered? directory value).isSome ↔
      value = .null ∨ value.IsRecord id.payloadNames.length := by
  cases id <;> rw [rendered?, Option.isSome_map] <;> exact Payload.isSome_nullable_record_iff

theorem isSome_row?_iff :
    (id.row? radios directory item).isSome ↔ item.IsRecord id.recordNames.length := by
  cases id <;> rw [row?, Option.isSome_map] <;> exact Payload.isSome_record_iff

/-- Decoding the items of a field and rendering the records is one step for each item. -/
theorem map_elements {α : Type} [Payload α] {fields : Fields} {names : List String}
    (h : ∀ name, fields.lookup name = value.under? names name) (name : String) (row : α → Row) :
    (fields.elements name).map row =
      (value.itemsUnder names name).filterMap fun item => (Payload.ofJson? item).map row := by
  rw [Fields.elements_eq h, List.map_filterMap]

/-- The rows of a payload are the rows of its items, in the order of the items. -/
theorem rendered?_eq (h : id.rendered? directory value = some rows) :
    rows = (id.items value).filterMap (id.row? value.status.radios directory) := by
  cases id with
  | connections =>
      obtain ⟨found, hfound, rfl⟩ := Option.map_eq_some_iff.mp h
      obtain ⟨fields, hfields, hlookup⟩ := Payload.exists_fields hfound
      rw [show found.getD .absent = Connections.ofFields fields from hfields]
      exact map_elements hlookup "ports" (Port.row directory)
  | devices =>
      obtain ⟨found, hfound, rfl⟩ := Option.map_eq_some_iff.mp h
      obtain ⟨hstatus, fields, hfields, hlookup⟩ := Json.exists_status_fields hfound
      rw [hstatus, hfields]
      exact map_elements hlookup "devices" (Device.row (Status.ofFields fields).radios)
  | links =>
      obtain ⟨found, hfound, rfl⟩ := Option.map_eq_some_iff.mp h
      obtain ⟨hstatus, fields, hfields, hlookup⟩ := Json.exists_status_fields hfound
      rw [hstatus, hfields]
      exact map_elements hlookup "links" Link.row
  | neighbors =>
      obtain ⟨found, hfound, rfl⟩ := Option.map_eq_some_iff.mp h
      obtain ⟨hstatus, fields, hfields, hlookup⟩ := Json.exists_status_fields hfound
      rw [hstatus, hfields]
      exact map_elements hlookup "neighbors" Neighbor.row
  | traceroute =>
      obtain ⟨found, hfound, rfl⟩ := Option.map_eq_some_iff.mp h
      obtain ⟨hstatus, fields, hfields, hlookup⟩ := Json.exists_status_fields hfound
      rw [hstatus, hfields]
      show ((Status.ofFields fields).traceToUplink.map Trace.hopOfUplink).map Hop.row = _
      rw [List.map_map]
      exact map_elements hlookup "trace_to_uplink" (Hop.row ∘ Trace.hopOfUplink)

/-- A row depends on its item, on the radio under the address of a device, and on the directory in
which the names behind a port are found. -/
theorem row?_congr
    (hradios : id = .devices →
      ∀ ip ∈ item.deviceAddress?, radios.lookup ip = radios'.lookup ip)
    (hdirectory : id = .connections → directory = directory') :
    id.row? radios directory item = id.row? radios' directory' item := by
  cases id with
  | connections => rw [hdirectory rfl]; rfl
  | devices =>
      -- Only the last cell looks at the radios, and only under the address of this device.
      refine Option.map_congr fun device hdevice => ?_
      have hradio : device.radio? radios = device.radio? radios' := by
        unfold Device.radio?
        rw [Device.ipv4_eq hdevice]
        exact Option.bind_congr fun ip hip => hradios rfl ip hip
      unfold Device.row
      rw [hradio]
  | links | neighbors | traceroute => rfl

theorem rendered?_append {whole front back : Json} {first second : List Row}
    (hfirst : id.rendered? directory front = some first)
    (hsecond : id.rendered? directory back = some second)
    (hwhole : whole.IsRecord id.payloadNames.length)
    (hitems : id.items whole = id.items front ++ id.items back)
    (hfront : id = .devices → ∀ item ∈ id.items front, ∀ ip ∈ item.deviceAddress?,
      whole.status.radios.lookup ip = front.status.radios.lookup ip)
    (hback : id = .devices → ∀ item ∈ id.items back, ∀ ip ∈ item.deviceAddress?,
      whole.status.radios.lookup ip = back.status.radios.lookup ip) :
    id.rendered? directory whole = some (first ++ second) := by
  have hrendered : (id.rendered? directory whole).isSome :=
    isSome_rendered?_iff.mpr (Or.inr hwhole)
  obtain ⟨rows, hrows⟩ := Option.isSome_iff_exists.mp hrendered
  have hpart {part : Json} (hradios : id = .devices → ∀ item ∈ id.items part,
      ∀ ip ∈ item.deviceAddress?,
        whole.status.radios.lookup ip = part.status.radios.lookup ip) :
      (id.items part).filterMap (id.row? whole.status.radios directory) =
        (id.items part).filterMap (id.row? part.status.radios directory) :=
    List.filterMap_congr fun item hitem =>
      row?_congr (fun hid => hradios hid item hitem) fun _ => rfl
  rw [hrows, rendered?_eq hrows, hitems, List.filterMap_append, hpart hfront, hpart hback,
    ← rendered?_eq hfirst, ← rendered?_eq hsecond]

theorem rendered?_eq_nil (h : id.rendered? directory value = some rows)
    (hlist : ∀ items, value.under? id.payloadNames id.listName ≠ some (.array items)) :
    rows = [] := by
  have hitems : id.items value = [] := by
    unfold items Json.itemsUnder
    cases hunder : value.under? id.payloadNames id.listName with
    | none => rfl
    | some list =>
        cases list with
        | array items => exact absurd hunder (hlist items)
        | _ => rfl
  rw [rendered?_eq h, hitems, List.filterMap_nil]

/-! ## Rows that are shown -/

/-- What a load shows in a table is rendered from the value that was delivered. -/
theorem rows_run {thresholds : Thresholds} {deliver : Endpoint → Delivery} {dashboard : Dashboard}
    (hfinished : ((id.part.branch thresholds).run deliver dashboard).finished = true)
    (hvalue : id.delivered? (deliver id.part.endpoint).exchange = some value) :
    ∃ rows, id.rendered? dashboard.directory value = some rows ∧
      ((id.part.branch thresholds).run deliver dashboard).dashboard.rows id =
        id.placed dashboard rows := by
  cases id with
  | connections =>
      obtain ⟨found, hfound, hshown⟩ := Branch.exists_showConnections hfinished hvalue
      refine ⟨_, Option.map_eq_some_iff.mpr ⟨found, hfound, rfl⟩, ?_⟩
      show Dashboard.rows (Branch.loadConnections.run deliver dashboard).dashboard _ = _
      rw [hshown, Dashboard.showConnections_ok]
      rfl
  | traceroute =>
      obtain ⟨found, olsr2Info, hfound, hshown⟩ := Branch.exists_showStatus hfinished hvalue
      refine ⟨_, Option.map_eq_some_iff.mpr ⟨found, hfound, rfl⟩, ?_⟩
      show Dashboard.rows ((Branch.loadStatus thresholds).run deliver dashboard).dashboard _ = _
      rw [hshown, Dashboard.showStatus_eq]
      show (dashboard.traceroute.afterStatus (found.getD .absent)).rows = _
      -- There are no rows just where there are no hops, and then the trace stays.
      unfold TraceRegion.afterStatus placed Table.ofHops
      rw [List.isEmpty_map]
      split <;> rfl
  | devices | links | neighbors =>
      obtain ⟨found, olsr2Info, hfound, hshown⟩ := Branch.exists_showStatus hfinished hvalue
      refine ⟨_, Option.map_eq_some_iff.mpr ⟨found, hfound, rfl⟩, ?_⟩
      show Dashboard.rows ((Branch.loadStatus thresholds).run deliver dashboard).dashboard _ = _
      rw [hshown, Dashboard.showStatus_eq]
      rfl

/-- A table shows the records of an array, each by itself. -/
structure Elementwise (id : TableId) : Prop where
  /-- A payload is rendered if it is a record, or null in its place. -/
  isSome_rendered?_iff : ∀ {directory value}, (id.rendered? directory value).isSome ↔
    value = .null ∨ value.IsRecord id.payloadNames.length
  /-- The rows are those of the items, in the order of the items. -/
  rendered?_eq : ∀ {directory value rows}, id.rendered? directory value = some rows →
    rows = (id.items value).filterMap (id.row? value.status.radios directory)
  /-- An item has a row if it is a record, whatever its fields are. -/
  isSome_row?_iff : ∀ {radios directory item}, (id.row? radios directory item).isSome ↔
    item.IsRecord id.recordNames.length
  /-- Besides its item a row depends on the radio under the address of a device, and on the directory
  in which the names behind a port are found. -/
  row?_congr : ∀ {radios radios' directory directory' item},
    (id = .devices → ∀ ip ∈ item.deviceAddress?, radios.lookup ip = radios'.lookup ip) →
    (id = .connections → directory = directory') →
    id.row? radios directory item = id.row? radios' directory' item
  /-- Two arrays one after the other give the rows of the first and then those of the second. -/
  rendered?_append : ∀ {directory whole front back first second},
    id.rendered? directory front = some first → id.rendered? directory back = some second →
    whole.IsRecord id.payloadNames.length → id.items whole = id.items front ++ id.items back →
    (id = .devices → ∀ item ∈ id.items front, ∀ ip ∈ item.deviceAddress?,
      whole.status.radios.lookup ip = front.status.radios.lookup ip) →
    (id = .devices → ∀ item ∈ id.items back, ∀ ip ∈ item.deviceAddress?,
      whole.status.radios.lookup ip = back.status.radios.lookup ip) →
    id.rendered? directory whole = some (first ++ second)
  /-- What is no array gives no rows. -/
  rendered?_eq_nil : ∀ {directory value rows}, id.rendered? directory value = some rows →
    (∀ items, value.under? id.payloadNames id.listName ≠ some (.array items)) → rows = []
  /-- These are the rows that are shown when a load of the table has come to its end. -/
  rows_run : ∀ {thresholds deliver dashboard value},
    ((id.part.branch thresholds).run deliver dashboard).finished = true →
    id.delivered? (deliver id.part.endpoint).exchange = some value →
    ∃ rows, id.rendered? dashboard.directory value = some rows ∧
      ((id.part.branch thresholds).run deliver dashboard).dashboard.rows id =
        id.placed dashboard rows

/-- **Every table shows its records item by item.** -/
theorem elementwise (id : TableId) : id.Elementwise where
  isSome_rendered?_iff := isSome_rendered?_iff
  rendered?_eq := rendered?_eq
  isSome_row?_iff := isSome_row?_iff
  row?_congr := row?_congr
  rendered?_append := rendered?_append
  rendered?_eq_nil := rendered?_eq_nil
  rows_run := rows_run

/-- Of four items under `links` two are records: an array with one field, and an object without any.
The rows under `neighbors` have the fields of their records, be it an object in any order of its
fields, or an array. -/
theorem elementwise_linksAndNeighbors :
    let withLinks : Json := .object [("links",
      .array [.text "eth0", .array [.text "eth0"], .null, .object []])]
    let withNeighbors : Json := .object [("neighbors",
      .array [.object [("lq", .text "1.0"), ("originator", .text "10.0.0.7")], .bool true,
        .array [.text "10.0.0.9", .text "north", .null, .bool true]])]
    (∃ rows, TableId.links.rendered? none withLinks = some rows ∧
      rows = [.ofText? (some "eth0") :: List.replicate 8 (.ofText? none),
        List.replicate 9 (.ofText? none)]) ∧
    ∃ rows, TableId.neighbors.rendered? none withNeighbors = some rows ∧
      rows = [
        [⟨["10.0.0.7"], false⟩, ⟨[], false⟩, ⟨[], false⟩, ⟨["1.0"], false⟩, ⟨[], false⟩, ⟨[], false⟩,
          ⟨[], false⟩],
        [⟨["10.0.0.9"], false⟩, ⟨["north"], false⟩, ⟨[], false⟩, ⟨["true"], false⟩, ⟨[], false⟩,
          ⟨[], false⟩, ⟨[], false⟩]] := by
  intro withLinks withNeighbors
  have hlinks := elementwise .links
  have hneighbors := elementwise .neighbors
  have hrecord : withLinks.IsRecord links.payloadNames.length := trivial
  have hrecord' : withNeighbors.IsRecord neighbors.payloadNames.length := trivial
  obtain ⟨rows, hrows⟩ := Option.isSome_iff_exists.mp
    (hlinks.isSome_rendered?_iff.mpr (Or.inr hrecord))
  obtain ⟨rows', hrows'⟩ := Option.isSome_iff_exists.mp
    (hneighbors.isSome_rendered?_iff.mpr (Or.inr hrecord'))
  exact ⟨⟨rows, hrows, hlinks.rendered?_eq hrows⟩, rows', hrows', hneighbors.rendered?_eq hrows'⟩

end TableId

end MeshConsole
