import MeshConsole.Proofs.Console.ProbeOutcome
import MeshConsole.Proofs.Table.Elements

/-!
# The footprint of a load

Which requests the console makes is known beforehand, but for one:

    loadAll   ──▶ capabilities, status, nodedb, connections, versions   once each
                  olsr2                                                 once, if the status says so
    a part    ──▶ its share of these
    a trace   ──▶ traceroute, once if there is a target

Neither the dashboard nor any other answer has a say in it. The word of the status is read off the
value that its answer delivers (`Exchange.turnsOnOlsr2`), and the lists of requests are functions of
that one word.
-/

namespace MeshConsole

open Json

/-! ## The word of the status -/

namespace Exchange

/-- The answer to the request for the status says that the second routing protocol is on: it
delivers a value, and the field for that protocol is set in it. -/
def turnsOnOlsr2 (exchange : Exchange) : Bool :=
  ((exchange.value? (Option Status)).bind (under? Status.names · "olsr2_on")).any isTruthy

/-- The status that is decoded from a value says what the value says. -/
theorem turnsOnOlsr2_eq (exchange : Exchange) :
    exchange.turnsOnOlsr2 =
      (exchange.json (Option Status)).toOption.any fun found => (found.getD .absent).olsr2On := by
  unfold turnsOnOlsr2
  rcases exchange.json_value?_cases (Option Status) with
    ⟨failure, hjson, hvalue⟩ | ⟨found, value, hjson, hvalue, hfound⟩
  · rw [hjson, hvalue]
    rfl
  · obtain ⟨hstatus, fields, hfields, hlookup⟩ := exists_status_fields hfound
    rw [hjson, hvalue, Option.bind_some, ← hlookup]
    exact (congrArg Status.olsr2On (hstatus.trans hfields)).symm

end Exchange

/-! ## Lists of requests -/

/-- The requests of a part, by the word of the status about the second routing protocol. -/
def Part.footprint (olsr2On : Bool) : Part → List Endpoint
  | status => if olsr2On then [.status, .olsr2] else [.status]
  | part => [part.endpoint]

/-- The requests of a full load. -/
def LoadOrder.footprint (olsr2On : Bool) (order : LoadOrder) : List Endpoint :=
  .capabilities :: order.parts.flatMap (Part.footprint olsr2On)

/-- The requests of a trace. -/
def Branch.traceFootprint (target : String) : List Endpoint :=
  let target := Text.trim target
  if target.isEmpty then [] else [.traceroute target]

/-- How often a full load asks an endpoint. -/
def Endpoint.timesLoaded (olsr2On : Bool) : Endpoint → Nat
  | olsr2 => olsr2On.toNat
  | traceroute _ => 0
  | _ => 1

theorem LoadOrder.count_footprint (olsr2On : Bool) (order : LoadOrder) (asked : Endpoint) :
    (order.footprint olsr2On).count asked = asked.timesLoaded olsr2On := by
  cases order <;> cases olsr2On <;> cases asked <;>
    simp [footprint, parts, Part.footprint, Part.endpoint, Endpoint.timesLoaded]

theorem Branch.requests_traceTo (answer? : Endpoint → Option Exchange) (target : String) :
    (traceTo target).requests answer? = traceFootprint target := by
  unfold traceTo traceFootprint
  dsimp only
  split
  · rfl
  · rw [requests_write, requests]
    cases answer? (.traceroute (Text.trim target)) <;> rfl

section

variable {answer? : Endpoint → Option Exchange} {answer : Endpoint → Exchange}
  (h : ∀ asked, answer? asked = some (answer asked))

include h

/-! ### Requests that are all answered -/

theorem Part.requests_eq_footprint (thresholds : Thresholds) (part : Part) :
    (part.branch thresholds).requests answer? =
      part.footprint (answer .status).turnsOnOlsr2 := by
  cases part with
  | status =>
      show (Branch.loadStatus thresholds).requests answer? = _
      rw [Branch.loadStatus, Branch.requests, h, footprint, Exchange.turnsOnOlsr2_eq]
      dsimp only
      cases (answer .status).json (Option Status) with
      | error failure => rfl
      | ok found =>
          cases hon : (found.getD .absent).olsr2On <;>
            simp [Except.toOption, hon, Branch.requests, h]
  | directory =>
      show Branch.loadDirectory.requests answer? = _
      rw [Branch.loadDirectory, Branch.requests, h]
      dsimp only
      cases (answer .nodedb).json Directory <;> rfl
  | _ => simp [branch, Branch.loadCapabilities, Branch.loadConnections, Branch.loadVersions,
      Branch.requests, h, footprint, endpoint]

theorem LoadOrder.requests_eq_footprint (thresholds : Thresholds) (order : LoadOrder) :
    order.requests thresholds answer? = order.footprint (answer .status).turnsOnOlsr2 := by
  rw [requests, footprint, h]
  simp only [Part.requests_eq_footprint h]

end

/-! ## Runs -/

namespace Node

/-- A node over plain `http` that leaves no request without an end. It may still drop connections,
and requests may not reach it at all. -/
structure Settles (node : Node) : Prop where
  scheme_eq : node.address.url.scheme = "http"
  reply_ne : ∀ asked, node.script.reply asked ≠ .hang

/-- A run comes to its end, and the requests that it makes of the node are the given ones. A node
that requests do not reach receives none of them. -/
structure Serves (node : Node) (requests : List Endpoint) (run : Run) : Prop where
  finished : run.finished = true
  received : run.received = if node.reachable then requests else []

variable {node : Node} (h : node.Settles)

include h

theorem Settles.exchange?_deliver (asked : Endpoint) :
    (node.deliver asked).exchange? = some (node.answer asked) :=
  Node.exchange?_deliver
    ((isSome_exchange?_deliver h.scheme_eq asked).mpr fun hhang => h.reply_ne asked hhang.2)

theorem Settles.filter_refusal? (requests : List Endpoint) :
    (requests.filter fun asked => (node.deliver asked).refusal?.isNone) =
      if node.reachable then requests else [] := by
  simp only [isNone_refusal?_deliver h.scheme_eq]
  cases node.reachable <;> simp

theorem Settles.all_isSome (requests : List Endpoint) :
    (requests.all fun asked => (node.deliver asked).exchange?.isSome) = true := by
  simp [h.exchange?_deliver]

theorem Settles.serves_run {branch : Branch} {requests : List Endpoint}
    (hrequests : branch.requests (fun asked => (node.deliver asked).exchange?) = requests)
    (dashboard : Dashboard) : node.Serves requests (branch.run node.deliver dashboard) where
  finished := by rw [Branch.finished_run, h.all_isSome]
  received := by rw [Branch.received_run, h.filter_refusal?, hrequests]

theorem Settles.serves_loadAll (thresholds : Thresholds) (order : LoadOrder)
    (dashboard : Dashboard) :
    node.Serves (order.footprint (node.answer .status).turnsOnOlsr2)
      (dashboard.loadAll node.deliver thresholds order) where
  finished := by rw [Dashboard.finished_loadAll, h.all_isSome]
  received := by
    rw [Dashboard.received_loadAll, h.filter_refusal?,
      LoadOrder.requests_eq_footprint h.exchange?_deliver]

theorem Settles.serves_part (thresholds : Thresholds) (part : Part) (dashboard : Dashboard) :
    node.Serves (part.footprint (node.answer .status).turnsOnOlsr2)
      ((part.branch thresholds).run node.deliver dashboard) :=
  h.serves_run (Part.requests_eq_footprint h.exchange?_deliver thresholds part) dashboard

theorem Settles.serves_traceTo (target : String) (dashboard : Dashboard) :
    node.Serves (Branch.traceFootprint target)
      ((Branch.traceTo target).run node.deliver dashboard) :=
  h.serves_run (Branch.requests_traceTo _ target) dashboard

end Node

/-- **The footprint of a load.** Let a node over plain `http` leave no request without an end,
whatever it answers. From every dashboard, a full load asks once each for the capabilities, the
status, the node directory, the connections and the versions, once for the information of the second
routing protocol if the status is delivered and says that it is on, and else not at all, and never
for a trace. A part asks for its share of that. A trace asks once, for the target without the blanks
around it, or not at all if nothing is left of it. So two nodes that are alike in the word of the
status, and in whether requests reach them, receive the same requests. -/
theorem request_footprint (node : Node) (h : node.Settles) (thresholds : Thresholds) :
    let olsr2On := (node.answer .status).turnsOnOlsr2
    (∀ (order : LoadOrder) (dashboard : Dashboard),
      let load := dashboard.loadAll node.deliver thresholds order
      node.Serves (order.footprint olsr2On) load ∧
        (node.reachable = true →
          ∀ asked, load.received.count asked = asked.timesLoaded olsr2On)) ∧
      (∀ (part : Part) (dashboard : Dashboard),
        node.Serves (part.footprint olsr2On)
          ((part.branch thresholds).run node.deliver dashboard)) ∧
      (∀ (target : String) (dashboard : Dashboard),
        node.Serves (Branch.traceFootprint target)
          ((Branch.traceTo target).run node.deliver dashboard)) ∧
      ∀ other : Node, other.Settles → other.reachable = node.reachable →
        (other.answer .status).turnsOnOlsr2 = olsr2On →
        ∀ (thresholds' : Thresholds) (dashboard dashboard' : Dashboard),
          (∀ order, (dashboard'.loadAll other.deliver thresholds' order).received =
            (dashboard.loadAll node.deliver thresholds order).received) ∧
          (∀ part : Part, ((part.branch thresholds').run other.deliver dashboard').received =
            ((part.branch thresholds).run node.deliver dashboard).received) ∧
          ∀ target, ((Branch.traceTo target).run other.deliver dashboard').received =
            ((Branch.traceTo target).run node.deliver dashboard).received := by
  intro olsr2On
  refine ⟨fun order dashboard => ⟨h.serves_loadAll thresholds order dashboard, ?count⟩,
    h.serves_part thresholds, h.serves_traceTo,
    fun other hother hreachable hword thresholds' dashboard dashboard' => ?alike⟩
  case count =>
    intro hreachable asked
    rw [(h.serves_loadAll thresholds order dashboard).received, if_pos hreachable,
      LoadOrder.count_footprint]
  case alike =>
    refine ⟨fun order => ?_, fun part => ?_, fun target => ?_⟩
    · rw [(hother.serves_loadAll thresholds' order dashboard').received, hreachable, hword,
        (h.serves_loadAll thresholds order dashboard).received]
    · rw [(hother.serves_part thresholds' part dashboard').received, hreachable, hword,
        (h.serves_part thresholds part dashboard).received]
    · rw [(hother.serves_traceTo target dashboard').received, hreachable,
        (h.serves_traceTo target dashboard).received]

/-- A status in array form, with a text in the place of the flag, asks for the second routing
protocol, although all else fails; a status that arrives with the wrong code does not. -/
theorem request_footprint_arrayForm :
    let body := Text.encode "[0, 0, 0, 0, 0, 0, 0, 0, 0, \"on\"]".toList
    let on := Node.atTest.withScript [("status", .answer .ok body), ("versions", .close)]
    let off := Node.atTest.withScript [("status", .answer .notFound body)]
    on.Settles ∧ off.Settles ∧
      (Dashboard.initial.loadAll on.deliver .standard .directoryFirst).received =
        [.capabilities, .status, .olsr2, .nodedb, .connections, .versions] ∧
      (Dashboard.initial.loadAll off.deliver .standard .directoryFirst).received =
        [.capabilities, .status, .nodedb, .connections, .versions] ∧
      ((Branch.traceTo " a&b ").run on.deliver .initial).received = [.traceroute "a&b"] ∧
      ((Branch.traceTo "\t ").run on.deliver .initial).received = [] := by
  intro body on off
  have hon : on.Settles := ⟨rfl, fun asked hhang => by cases asked <;> cases hhang⟩
  have hoff : off.Settles := ⟨rfl, fun asked hhang => by cases asked <;> cases hhang⟩
  obtain ⟨hload, -, htrace, -⟩ := request_footprint on hon .standard
  obtain ⟨hload', -⟩ := request_footprint off hoff .standard
  exact ⟨hon, hoff, (hload .directoryFirst .initial).1.received.trans (by decide +kernel),
    (hload' .directoryFirst .initial).1.received.trans (by decide +kernel),
    (htrace " a&b " .initial).received.trans (by decide +kernel),
    (htrace "\t " .initial).received.trans (by decide +kernel)⟩

end MeshConsole
