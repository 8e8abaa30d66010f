import MeshConsole.CommandLine.Program
import MeshConsole.Proofs.Dashboard.Requests
import MeshConsole.Proofs.Payload.Counts
import MeshConsole.Proofs.Session.History

/-!
# The outcome of a probe

A probe comes to one of three ends, and which one follows from the script of the node and the limit
alone:

    some request of the load hangs, or there is no time ──▶ expired       code 2
    the capabilities do not arrive                       ──▶ unreachable   code 2
    otherwise                                            ──▶ a report      code 0

What the other endpoints answer is seen in the report only. It counts the records that the status
and the connections deliver, and where one of these fails there are none to count.
-/

namespace MeshConsole

/-! ## Records in a report -/

/-- How many records there are of each kind that a report counts. -/
structure Tally where
  devices : Nat
  links : Nat
  neighbors : Nat
  ports : Nat
deriving Repr, DecidableEq

namespace Tally

/-- The line of a report that gives the numbers of records. -/
def text (tally : Tally) : String :=
  "devices=" ++ String.ofList (Decimal.natural tally.devices) ++
    " links=" ++ String.ofList (Decimal.natural tally.links) ++
    " neighbors=" ++ String.ofList (Decimal.natural tally.neighbors) ++
    " ports=" ++ String.ofList (Decimal.natural tally.ports)

/-- The records that the answers of a node deliver. -/
def ofAnswers (answer : Endpoint → Exchange) : Tally where
  devices := (answer .status).recordCount (Option Status) Device Status.names "devices"
  links := (answer .status).recordCount (Option Status) Link Status.names "links"
  neighbors := (answer .status).recordCount (Option Status) Neighbor Status.names "neighbors"
  ports := (answer .connections).recordCount (Option Connections) Port ["ports"] "ports"

end Tally

/-- The rows of the tables that a report counts. -/
def Dashboard.tally (dashboard : Dashboard) : Tally where
  devices := dashboard.devices.length
  links := dashboard.links.length
  neighbors := dashboard.neighbors.length
  ports := dashboard.connections.rows.length

/-- What a part makes of a tally: a status and connections replace what they tell about, if they
arrive. -/
def Part.recount (answer : Endpoint → Exchange) (part : Part) (tally : Tally) : Tally :=
  match part with
  | status =>
    match (answer .status).value? (Option Status) with
    | none => tally
    | some value =>
      { tally with
        devices := value.recordCount Device Status.names "devices"
        links := value.recordCount Link Status.names "links"
        neighbors := value.recordCount Neighbor Status.names "neighbors" }
  | connections =>
    match (answer .connections).value? (Option Connections) with
    | none => tally
    | some value => { tally with ports := value.recordCount Port ["ports"] "ports" }
  | _ => tally

theorem Table.length_sortBy? (key : Option String) (table : Table) :
    (table.sortBy? key).rows.length = table.rows.length := (perm_sortBy? key table).length_eq

section

variable (thresholds : Thresholds) (answer : Endpoint → Exchange)

/-- Tables have a row for each record. -/
theorem Part.tally_after (part : Part) (dashboard : Dashboard) :
    (part.after thresholds answer dashboard).tally = part.recount answer dashboard.tally := by
  cases part with
  | capabilities => rfl
  | status =>
      rw [after_status, recount]
      rcases (answer .status).json_value?_cases (Option Status) with
        ⟨failure, hjson, hvalue⟩ | ⟨found, value, hjson, hvalue, hfound⟩
      · rw [hjson, hvalue]
        rfl
      · obtain ⟨fields, hstatus, hfields⟩ := Payload.exists_fields hfound
        have hstatus : found.getD .absent = .ofFields fields := hstatus
        rw [hjson, hvalue]
        dsimp only
        rw [hstatus, Dashboard.showStatus_eq]
        simp [Dashboard.tally, Table.length_sortBy?, Table.ofDevices, Table.ofLinks,
          Table.ofNeighbors, Status.ofFields, Json.Fields.length_elements _ hfields]
  | directory =>
      rw [after_directory]
      split <;> rfl
  | connections =>
      rw [after_connections, recount]
      rcases (answer .connections).json_value?_cases (Option Connections) with
        ⟨failure, hjson, hvalue⟩ | ⟨found, value, hjson, hvalue, hfound⟩
      · rw [hjson, hvalue]
        rfl
      · obtain ⟨fields, hconnections, hfields⟩ := Payload.exists_fields hfound
        have hconnections : found.getD .absent = .ofFields fields := hconnections
        rw [hjson, hvalue, Dashboard.showConnections_ok, hconnections]
        simp [Dashboard.tally, Dashboard.awaitConnections, Table.length_sortBy?, Table.ofPorts,
          Connections.ofFields, Json.Fields.length_elements _ hfields]
  | versions =>
      rw [after_versions]
      cases (answer .versions).json Json <;> rfl

theorem tally_foldl_parts (parts : List Part) (dashboard : Dashboard) :
    (parts.foldl (fun dashboard part => part.after thresholds answer dashboard) dashboard).tally =
      parts.foldl (fun tally part => part.recount answer tally) dashboard.tally := by
  induction parts generalizing dashboard with
  | nil => rfl
  | cons part parts ih => rw [List.foldl_cons, List.foldl_cons, ih, Part.tally_after]

/-- A full load from the empty dashboard shows the records that the answers deliver. -/
theorem tally_loaded (order : LoadOrder) :
    (order.parts.foldl (fun dashboard part => part.after thresholds answer dashboard)
      (Part.capabilities.after thresholds answer .initial)).tally = .ofAnswers answer := by
  rw [tally_foldl_parts, Part.tally_after]
  unfold Tally.ofAnswers Exchange.recordCount
  cases order <;>
    cases hstatus : (answer .status).value? (Option Status) <;>
      cases hconnections : (answer .connections).value? (Option Connections) <;>
        simp [LoadOrder.parts, Part.recount, hstatus, hconnections, Dashboard.tally,
          Dashboard.initial]

/-- Only the capabilities say whether a node is reachable. -/
theorem capabilities_foldl_parts {parts : List Part} (hparts : .capabilities ∉ parts)
    (dashboard : Dashboard) :
    (parts.foldl (fun dashboard part => part.after thresholds answer dashboard)
      dashboard).capabilities = dashboard.capabilities := by
  induction parts generalizing dashboard with
  | nil => rfl
  | cons part parts ih =>
      obtain ⟨hpart, hparts⟩ := not_or.mp (List.mem_cons.not.mp hparts)
      rw [List.foldl_cons, ih hparts, Part.after_confined thresholds answer part dashboard]
      cases part with
      | capabilities => exact absurd rfl hpart
      | _ => rfl

end

/-- The numbers of records stand on a line of the report. -/
theorem Report.exists_text_eq (report : Report) :
    ∃ before after,
      report.text = before ++ "\n" ++ report.dashboard.tally.text ++ "\n" ++ after := by
  unfold text
  dsimp only
  rw [List.append_assoc, String.intercalate_append_of_ne_nil (by simp) (by simp)]
  exact ⟨_, _, rfl⟩

/-! ## Requests of a node -/

/-- The endpoints that a full load asks, if the answers are as given: all that need no target, apart
from `olsr2`, which is asked only if there is a status that says that it is on. -/
def Endpoint.IsLoaded (answer : Endpoint → Exchange) : Endpoint → Prop
  | .olsr2 =>
    ∃ found, (answer .status).json (Option Status) = .ok found ∧
      (found.getD .absent).olsr2On = true
  | .traceroute _ => False
  | _ => True

namespace Node

/-- What comes back for a request. A request that is never answered counts as lost. -/
def answer (node : Node) (asked : Endpoint) : Exchange :=
  (node.deliver asked).exchange?.getD (.error ⟨.unsent, (node.address.urlOf asked).text⟩)

/-- A probe has no time, or a request that it makes is never answered. A node that requests do not
reach keeps nobody waiting. -/
def Expires (node : Node) (limit : Span) : Prop :=
  node.reachable = true ∧
    (limit.milliseconds = 0 ∨
      ∃ asked : Endpoint, asked.IsLoaded node.answer ∧ node.script.reply asked = .hang)

variable {node : Node}

theorem exchange?_deliver {asked : Endpoint} (h : (node.deliver asked).exchange?.isSome = true) :
    (node.deliver asked).exchange? = some (node.answer asked) := by
  obtain ⟨exchange, hexchange⟩ := Option.isSome_iff_exists.mp h
  rw [answer, hexchange]
  rfl

/-- A payload comes from an answer that has arrived. -/
theorem exchange?_deliver_of_json {α : Type} [Payload α] {asked : Endpoint} {found : α}
    (h : (node.answer asked).json α = .ok found) :
    (node.deliver asked).exchange? = some (node.answer asked) := by
  unfold answer at h ⊢
  cases hexchange : (node.deliver asked).exchange? with
  | none =>
      rw [hexchange] at h
      cases h
  | some exchange => rfl

/-- Once the capabilities are answered, a load makes the requests that follow from the answers. -/
theorem mem_requests_iff {thresholds : Thresholds} {order : LoadOrder} {asked : Endpoint}
    (h : (node.deliver .capabilities).exchange?.isSome = true) :
    asked ∈ order.requests thresholds (fun asked => (node.deliver asked).exchange?) ↔
      asked.IsLoaded node.answer := by
  have hpart (part : Part) : part.endpoint ∈
      order.requests thresholds fun asked => (node.deliver asked).exchange? := by
    rw [LoadOrder.mem_requests]
    by_cases hpart : part = .capabilities
    · exact Or.inl (congrArg Part.endpoint hpart)
    · exact Or.inr ⟨h, part, hpart, Part.mem_requests.mpr (Or.inl rfl)⟩
  constructor
  · rw [LoadOrder.mem_requests]
    rintro (rfl | ⟨-, part, -, hasked⟩)
    · trivial
    · rcases Part.mem_requests.mp hasked with rfl | ⟨-, rfl, exchange, found, harrived, hfound⟩
      · cases part <;> trivial
      · have hexchange : node.answer .status = exchange := by
          rw [answer, harrived]
          rfl
        exact ⟨found, hexchange ▸ hfound⟩
  · intro hloaded
    cases asked with
    | capabilities => exact hpart .capabilities
    | status => exact hpart .status
    | nodedb => exact hpart .directory
    | connections => exact hpart .connections
    | versions => exact hpart .versions
    | traceroute target => exact hloaded.elim
    | olsr2 =>
        obtain ⟨found, hjson, hon⟩ := hloaded
        have hasked : Endpoint.olsr2 ∈ (Part.status.branch thresholds).requests
            fun asked => (node.deliver asked).exchange? :=
          Part.mem_requests.mpr
            (Or.inr ⟨rfl, rfl, _, found, exchange?_deliver_of_json hjson, hjson, hon⟩)
        exact LoadOrder.mem_requests.mpr (Or.inr ⟨h, .status, by decide, hasked⟩)

section

variable (hscheme : node.address.url.scheme = "http") (thresholds : Thresholds) (order : LoadOrder)
  (dashboard : Dashboard)

include hscheme

/-! ### Nodes over plain http -/

theorem isSome_exchange?_deliver (asked : Endpoint) :
    (node.deliver asked).exchange?.isSome = true ↔
      ¬ (node.reachable = true ∧ node.script.reply asked = .hang) := by
  unfold deliver
  dsimp only
  cases node.reachable <;> cases node.script.reply asked <;>
    simp [hscheme, Reply.delivery, Delivery.exchange?]

theorem isNone_refusal?_deliver (asked : Endpoint) :
    (node.deliver asked).refusal?.isNone = node.reachable := by
  unfold deliver
  dsimp only
  cases node.reachable <;> cases node.script.reply asked <;>
    simp [hscheme, Reply.delivery, Delivery.refusal?]

/-- A load waits for a request if and only if one that follows from the answers hangs. -/
theorem exists_hang_iff :
    (∃ asked ∈ order.requests thresholds (fun asked => (node.deliver asked).exchange?),
        node.script.reply asked = .hang) ↔
      ∃ asked : Endpoint, asked.IsLoaded node.answer ∧ node.script.reply asked = .hang := by
  by_cases h : (node.deliver .capabilities).exchange?.isSome = true
  · simp only [mem_requests_iff h]
  · -- Nothing is asked behind the capabilities, but these hang.
    rw [isSome_exchange?_deliver hscheme, Classical.not_not] at h
    exact iff_of_true ⟨.capabilities, List.mem_cons_self, h.2⟩ ⟨.capabilities, trivial, h.2⟩

theorem finished_loadAll_iff :
    (dashboard.loadAll node.deliver thresholds order).finished = false ↔
      node.reachable = true ∧
        ∃ asked : Endpoint, asked.IsLoaded node.answer ∧ node.script.reply asked = .hang := by
  rw [Dashboard.finished_loadAll, List.all_eq_false, ← exists_hang_iff hscheme thresholds order]
  simp only [isSome_exchange?_deliver hscheme, Classical.not_not]
  constructor
  · rintro ⟨asked, hasked, hreachable, hhang⟩
    exact ⟨hreachable, asked, hasked, hhang⟩
  · rintro ⟨hreachable, asked, hasked, hhang⟩
    exact ⟨asked, hasked, hreachable, hhang⟩

theorem isEmpty_received_loadAll :
    (dashboard.loadAll node.deliver thresholds order).received.isEmpty = !node.reachable := by
  rw [Dashboard.received_loadAll]
  simp only [isNone_refusal?_deliver hscheme]
  cases node.reachable <;> simp [LoadOrder.requests]

theorem expires_loadAll_iff (limit : Span) :
    (dashboard.loadAll node.deliver thresholds order).expires limit = true ↔
      node.Expires limit := by
  unfold Run.expires Expires
  rw [isEmpty_received_loadAll hscheme, Bool.not_not, Bool.or_eq_true, Bool.not_eq_true',
    finished_loadAll_iff hscheme, Bool.and_eq_true, beq_iff_eq, and_comm (b := _ = true),
    ← and_or_left, or_comm]

/-! ## Probes -/

/-- A load that does not expire has its answers, and loads its parts with them. -/
theorem dashboard_of_not_expires {limit : Span} (h : ¬ node.Expires limit) :
    (dashboard.loadAll node.deliver thresholds order).dashboard =
      order.parts.foldl (fun dashboard part => part.after thresholds node.answer dashboard)
        (Part.capabilities.after thresholds node.answer dashboard) := by
  apply Dashboard.loadAll_of_requests
  intro asked hasked
  apply exchange?_deliver
  rw [isSome_exchange?_deliver hscheme]
  rintro ⟨hreachable, hhang⟩
  have hloaded := (exists_hang_iff hscheme thresholds order).mp ⟨asked, hasked, hhang⟩
  exact h ⟨hreachable, Or.inr hloaded⟩

/-- The three ends of a probe. -/
theorem probe_cases (limit : Span) :
    node.Expires limit ∧
        node.probe thresholds limit = .error (.expired node.address.text limit) ∨
      (¬ node.Expires limit ∧ ∃ failure,
        (node.answer .capabilities).json (Option Capabilities) = .error failure ∧
          node.probe thresholds limit =
            .error (.unreachable node.address.text failure.diagnostic)) ∨
      ¬ node.Expires limit ∧ ∃ found report,
        (node.answer .capabilities).json (Option Capabilities) = .ok found ∧
          node.probe thresholds limit = .ok report ∧ report.node = node.address.text ∧
          report.dashboard.tally = .ofAnswers node.answer := by
  by_cases h : node.Expires limit
  · refine Or.inl ⟨h, ?_⟩
    unfold probe
    exact if_pos ((expires_loadAll_iff hscheme thresholds .directoryFirst .initial limit).mpr h)
  · right
    have hdashboard := dashboard_of_not_expires hscheme thresholds .directoryFirst .initial h
    have hcapabilities :
        (Dashboard.initial.loadAll node.deliver thresholds
          .directoryFirst).dashboard.capabilities =
          .ofOutcome ((node.answer .capabilities).json (Option Capabilities)) := by
      rw [hdashboard, capabilities_foldl_parts thresholds _ (by decide)]
      rfl
    unfold probe
    dsimp only
    rw [if_neg ((expires_loadAll_iff hscheme thresholds .directoryFirst .initial limit).not.mpr h),
      hcapabilities]
    cases (node.answer .capabilities).json (Option Capabilities) with
    | error failure => exact Or.inl ⟨h, failure, rfl, rfl⟩
    | ok found =>
        refine Or.inr ⟨h, found, _, rfl, rfl, rfl, ?_⟩
        dsimp only
        rw [hdashboard, tally_loaded]

end

end Node

/-- The program ends a probe with code 0 if there is a report, and with code 2 if there is none. -/
theorem Settings.code_probe {settings : Settings} {nodeAt : Address → Node} {node : Node}
    (hscheme : node.address.url.scheme = "http")
    (haddress : Address.parse settings.nodeUrl = .ok node.address)
    (hnode : nodeAt node.address = node) (seconds : Option Nat) :
    let limit := Span.ofSeconds (seconds.getD settings.probeSeconds)
    let capabilities := (node.answer .capabilities).json (Option Capabilities)
    ((settings.probe nodeAt seconds).code = 0 ↔
        ¬ node.Expires limit ∧ ∃ found, capabilities = .ok found) ∧
      ((settings.probe nodeAt seconds).code = 2 ↔
        node.Expires limit ∨ ∃ failure, capabilities = .error failure) := by
  intro limit capabilities
  unfold probe
  rw [haddress]
  dsimp only
  rw [hnode]
  rcases node.probe_cases hscheme settings.thresholds limit with
    ⟨hexpires, hprobe⟩ | ⟨hexpires, failure, hfetched, hprobe⟩ |
    ⟨hexpires, found, report, hfetched, hprobe, -⟩
  · rw [hprobe]
    simp [hexpires, Completion.refusal]
  · have hfetched : capabilities = .error failure := hfetched
    rw [hprobe]
    simp [hexpires, hfetched, Completion.refusal]
  · have hfetched : capabilities = .ok found := hfetched
    rw [hprobe]
    simp [hexpires, hfetched, Completion.success]

/-- A node that never answers to `olsr2`, with the given text as its status. It has no connections.
-/
def Script.silentOlsr2 (status : String) : Script :=
  [("capabilities", .answer .ok (Text.encode "null".toList)),
   ("status", .answer .ok (Text.encode status.toList)), ("olsr2", .hang)]

end MeshConsole
