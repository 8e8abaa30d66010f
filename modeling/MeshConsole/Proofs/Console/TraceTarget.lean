import MeshConsole.Proofs.Console.Effects
import MeshConsole.Proofs.Console.Footprint
import MeshConsole.Proofs.Http.FormRequest

/-!
# The target of a trace on its way

The operator names the target of a trace, and the node is asked for a trace to it. In between the
target is written into a query twice, and read once:

    target ──form──▶ GET /traceroute?target=... ──trim──▶ form ──▶ URL of the request to the node

Whatever characters the target has, the query of that URL has the pairs of the address of the node
and one more. Nothing else of the URL depends on the target.
-/

namespace MeshConsole

open Request (ofForm formText)

/-- The path of a request of the operator for a trace. -/
def Request.tracePath : List Char := "/traceroute".toList

/-- A node over plain `http` receives the request of a trace, whether it answers or not. -/
theorem Node.received_traceTo {node : Node} (hscheme : node.address.url.scheme = "http")
    (hreachable : node.reachable = true) (target : String) (dashboard : Dashboard) :
    ((Branch.traceTo target).run node.deliver dashboard).received =
      Branch.traceFootprint target := by
  rw [Branch.received_run, Branch.requests_traceTo]
  simp only [isNone_refusal?_deliver hscheme, hreachable, List.filter_true]

theorem Console.received_trace {console : Console}
    (hscheme : console.node.address.url.scheme = "http") (hreachable : console.node.reachable = true)
    {query : List Char} {target : String} (h : parameter? query "target" = .ok (some target))
    (order : LoadOrder) :
    (console.handle order ⟨"GET", ⟨Request.tracePath, query⟩⟩).1.received =
      Branch.traceFootprint target := by
  rw [handle_of_accepted (Action.ofRequest_trace rfl rfl h)]
  exact Node.received_traceTo hscheme hreachable target console.dashboard

/-- The URL of a request for a trace, part by part. -/
theorem Address.urlOf_traceroute (address : Address) (target : String) :
    let url := address.urlOf (.traceroute target)
    url.pairs = address.url.pairs ++ [("target", target)] ∧ url.scheme = address.url.scheme ∧
      url.host = address.url.host ∧ url.port = address.url.port ∧
      url.path = Url.underFolder "traceroute".toList address.url.path :=
  ⟨Url.pairs_addPair ("target", target) _, rfl, rfl, rfl, rfl⟩

/-- **The target of a trace travels unaltered.** Whatever the address of the node is and whatever
characters the target has, the query of the URL of a request for a trace has the pairs of the
address and behind them one more, the name `target` with the target itself; scheme, host, port and
path come from the address alone. So if the operator sends a target as a form, the request is read
unless it is too long, and a node over plain `http` that can be reached receives one request, with
the target without the blanks around it, or none if nothing is left of it. -/
theorem trace_target_unaltered (address : Address) (target : String) :
    let url := address.urlOf (.traceroute target)
    let text := formText Request.tracePath ("target", target)
    (url.pairs = address.url.pairs ++ [("target", target)] ∧ url.scheme = address.url.scheme ∧
        url.host = address.url.host ∧ url.port = address.url.port ∧
        url.path = Url.underFolder "traceroute".toList address.url.path) ∧
      (text.utf8ByteSize ≤ RequestTarget.longest → (Request.parse? "GET" text).isSome = true) ∧
      ∀ request, Request.parse? "GET" text = some request →
        ∀ (console : Console) (order : LoadOrder), console.node.address = address →
          address.url.scheme = "http" → console.node.reachable = true →
          let received := (console.handle order request).1.received
          received = (if (Text.trim target).isEmpty then [] else [.traceroute (Text.trim target)]) ∧
            ∀ asked ∈ received, (console.node.address.urlOf asked).pairs =
              address.url.pairs ++ [("target", Text.trim target)] := by
  intro url text
  have hparse : Request.parse? "GET" text =
      if text.utf8ByteSize > RequestTarget.longest then none
      else some (ofForm Request.tracePath ("target", target)) :=
    Request.parse?_formText rfl (by decide) ("target", target)
  refine ⟨address.urlOf_traceroute target, fun hsize => ?read, ?reach⟩
  case read =>
    rw [hparse, if_neg (Nat.not_lt.mpr hsize)]
    rfl
  case reach =>
    rintro request hrequest console order rfl hscheme hreachable
    obtain rfl : request = ofForm Request.tracePath ("target", target) := by
      rw [hparse] at hrequest
      split at hrequest
      · cases hrequest
      · exact (Option.some.inj hrequest).symm
    have hreceived :
        (console.handle order (ofForm Request.tracePath ("target", target))).1.received =
          Branch.traceFootprint target :=
      Console.received_trace hscheme hreachable (Request.parameter?_encodePair "target" target) order
    refine ⟨hreceived, fun asked hasked => ?_⟩
    rw [hreceived, Branch.traceFootprint] at hasked
    split at hasked
    · cases hasked
    · obtain rfl := List.mem_singleton.mp hasked
      exact (console.node.address.urlOf_traceroute _).1

/-- A target full of separators reaches a node whose address has a query of its own. -/
theorem trace_target_unaltered_separators :
    let node := { Node.atTest with address.url.query := some "key=7".toList }
    let console := Console.initial node .standard
    let target := " a+b&c=d%41#\u00fc "
    let text := formText Request.tracePath ("target", target)
    text.utf8ByteSize ≤ RequestTarget.longest ∧
      ∃ request, Request.parse? "GET" text = some request ∧
        (console.handle .directoryFirst request).1.received = [.traceroute "a+b&c=d%41#\u00fc"] ∧
        (node.address.urlOf (.traceroute "a+b&c=d%41#\u00fc")).pairs =
          [("key", "7"), ("target", "a+b&c=d%41#\u00fc")] := by
  intro node console target text
  have hsize : text.utf8ByteSize ≤ RequestTarget.longest := by decide +kernel
  have htrim : Text.trim target = "a+b&c=d%41#\u00fc" := by decide +kernel
  have hpairs : node.address.url.pairs = [("key", "7")] := by decide +kernel
  obtain ⟨-, hread, hreach⟩ := trace_target_unaltered node.address target
  obtain ⟨request, hrequest⟩ := Option.isSome_iff_exists.mp (hread hsize)
  obtain ⟨hreceived, hasked⟩ := hreach request hrequest console .directoryFirst rfl rfl rfl
  rw [htrim, if_neg (by decide)] at hreceived
  rw [htrim, hpairs] at hasked
  exact ⟨hsize, request, hrequest, hreceived,
    hasked _ (hreceived ▸ List.mem_singleton_self _)⟩

end MeshConsole
