import MeshConsole.Http.Status
import MeshConsole.Payload.Record
import MeshConsole.Node.Endpoint

/-!
# Fetching from a node

A fetch sends one request and decodes what comes back. It fails in one of three ways: no answer
arrived, the answer has a status that is no success, or its body does not decode. A failure never
leaves the part of the dashboard that asked; there it is shown as a diagnostic text.

    request ──▶ Except Fault Answer ──json / text──▶ Except Failure payload

A text endpoint is more forgiving: an answer with another status is delivered as text too.
-/

namespace MeshConsole

/-- Why no answer arrived. -/
inductive FaultCause where
  /-- The connection could not be made, or was lost before an answer began. -/
  | unsent
  /-- The connection was lost inside the body of the answer. -/
  | cutOff
  /-- The scheme of the address is neither `http` nor `https`. -/
  | unsupported
deriving Repr, DecidableEq

/-- A request to which no answer arrived. -/
structure Fault where
  cause : FaultCause
  url : String
deriving Repr, DecidableEq

/-- The wording of a cause. -/
def FaultCause.message : FaultCause → String
  | .unsent => "error sending request"
  | .cutOff => "error decoding response body"
  | .unsupported => "builder error"

/-- The wording of a fault. -/
def Fault.message (fault : Fault) : String :=
  fault.cause.message ++ " for url (" ++ fault.url ++ ")"

/-- An answer of the node, its body already read as text. -/
structure Answer where
  status : StatusCode
  body : String
deriving Repr, DecidableEq

/-- An answer as text: the status on a line of its own, then the body. -/
def Answer.text (answer : Answer) : String := "HTTP " ++ answer.status.text ++ "\n" ++ answer.body

/-- What comes back for a request. -/
abbrev Exchange := Except Fault Answer

/-- Why a fetch failed. -/
inductive Failure where
  | transport (fault : Fault)
  | http (answer : Answer)
  | malformed (body : String)
deriving Repr, DecidableEq

/-- The text that is shown where the payload would be: what went wrong in transport, the whole
answer if its status is no success, and the body itself if it did not decode. -/
def Failure.diagnostic : Failure → String
  | .transport fault => "ERR: " ++ fault.message
  | .http answer => answer.text
  | .malformed body => body

/-- What a fetch results in. -/
abbrev Outcome (α : Type) := Except Failure α

namespace Exchange

/-- The payload that a JSON endpoint delivers. -/
def json (α : Type) [Payload α] : Exchange → Outcome α
  | .error fault => .error (.transport fault)
  | .ok answer =>
    if answer.status.isSuccess then
      match Payload.read? answer.body with
      | some payload => .ok payload
      | none => .error (.malformed answer.body)
    else .error (.http answer)

/-- The text that a text endpoint delivers. -/
def text : Exchange → Outcome String
  | .error fault => .error (.transport fault)
  | .ok answer => .ok (if answer.status.isSuccess then answer.body else answer.text)

end Exchange

/-- What is fetched when nothing more is known about the payload than its kind. -/
inductive Fetched where
  | json (value : Json)
  | text (value : String)
deriving DecidableEq

/-- The payload that an endpoint delivers, according to its kind. -/
def Endpoint.decode (endpoint : Endpoint) (exchange : Exchange) : Outcome Fetched :=
  match endpoint.kind with
  | .json => (exchange.json Json).map .json
  | .text => exchange.text.map .text

end MeshConsole
