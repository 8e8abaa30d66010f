import MeshConsole.Node.Fetch
import MeshConsole.Text.Utf8

/-!
# What becomes of a request

A request fails on this side before it is sent, or it reaches the node; the node then answers it,
drops the connection, or stays silent for ever. A scripted node has all its answers laid down in
advance, and with it every run of the console is a function of the script.
-/

namespace MeshConsole

/-- What becomes of a request. -/
inductive Delivery where
  /-- The request fails before it is sent. Nobody has to wait for that. -/
  | undelivered (fault : Fault)
  /-- The node receives the request, and this comes back. -/
  | delivered (exchange : Exchange)
  /-- The node receives the request and never answers. -/
  | silent
deriving Repr

/-- What comes back for a request; none if it is never answered. -/
def Delivery.exchange? : Delivery → Option Exchange
  | .undelivered fault => some (.error fault)
  | .delivered exchange => some exchange
  | .silent => none

/-- How a scripted node replies to the requests to one endpoint. -/
inductive Reply where
  /-- With a status and the bytes of a body. -/
  | answer (status : StatusCode) (body : List UInt8)
  /-- By closing the connection without an answer. -/
  | close
  /-- By closing the connection inside the body. -/
  | cutOff
  /-- Not at all. -/
  | hang
deriving Repr, DecidableEq

/-- The replies of a node by the names of its endpoints. -/
abbrev Script := List (String × Reply)

namespace Script

/-- The reply to requests for an endpoint that the script does not mention. -/
def missing : Reply := .answer .notFound []

/-- The reply to a request. -/
def reply (script : Script) (endpoint : Endpoint) : Reply :=
  (script.lookup endpoint.name).getD missing

/-- The script with one reply set, or taken out. -/
def set (script : Script) (name : String) (reply : Option Reply) : Script :=
  let others := script.filter fun entry => entry.1 != name
  match reply with
  | some reply => (name, reply) :: others
  | none => others

/-- The script with several replies set or taken out, one after the other. -/
def merge (script : Script) (changes : List (String × Option Reply)) : Script :=
  changes.foldl (fun script change => script.set change.1 change.2) script

end Script

/-- A status without a body, whatever the reply says. -/
def StatusCode.isBodiless (code : StatusCode) : Bool := code.val == 204 || code.val == 304

/-- What comes back when a node replies to a request for the given URL. -/
def Reply.delivery (url : String) : Reply → Delivery
  | .answer status body =>
    let body := if status.isBodiless then [] else body
    .delivered (.ok ⟨status, String.ofList (Text.decodeLossy body)⟩)
  | .close => .delivered (.error ⟨.unsent, url⟩)
  | .cutOff => .delivered (.error ⟨.cutOff, url⟩)
  | .hang => .silent

/-- A node as the console sees it: its address, whether requests reach it at all, and its script. -/
structure Node where
  address : Address
  reachable : Bool
  script : Script
deriving Repr, DecidableEq

/-- What becomes of a request to an endpoint. Only plain `http` is understood by a scripted node,
and no request goes out for a scheme that is no kind of `http`. -/
def Node.deliver (node : Node) (endpoint : Endpoint) : Delivery :=
  let url := (node.address.urlOf endpoint).text
  let scheme := node.address.url.scheme
  if scheme = "http" ∧ node.reachable then (node.script.reply endpoint).delivery url
  else if scheme = "http" ∨ scheme = "https" then .undelivered ⟨.unsent, url⟩
  else .undelivered ⟨.unsupported, url⟩

end MeshConsole
