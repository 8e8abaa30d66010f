import MeshConsole.Http.Status
import MeshConsole.Http.Target

/-!
# Requests and responses

A request consists of a method and a target. A response has a status and at most one of two things
beside its body: the kind of its content, or the location that the browser goes to next.
-/

namespace MeshConsole

/-- A request. -/
structure Request where
  method : String
  target : RequestTarget
deriving Repr, DecidableEq

/-- A character that may stand in a method. -/
def Request.isMethodChar (c : Char) : Bool :=
  c.isAlphanum || "!#$%&'*+-.^_\x60|~".toList.contains c

/-- Reads a request. -/
def Request.parse? (method target : String) : Option Request :=
  if method.isEmpty || !method.toList.all isMethodChar then none
  else (RequestTarget.parse? target).map fun target => ⟨method, target⟩

/-- A response. -/
structure Response where
  status : StatusCode
  location : Option String
  contentType : Option String
  body : String
deriving Repr, DecidableEq

namespace Response

/-- A response without content. -/
def bare (status : StatusCode) : Response := ⟨status, none, none, ""⟩

/-- A response that sends the browser to another address. -/
def redirect (location : String) : Response := ⟨⟨303, by decide⟩, some location, none, ""⟩

/-- A response of plain text. -/
def plain (status : StatusCode) (body : String) : Response :=
  ⟨status, none, some "text/plain; charset=utf-8", body⟩

/-- A response with a page. -/
def html (body : String) : Response := ⟨.ok, none, some "text/html; charset=utf-8", body⟩

/-- A response with a JSON document. -/
def json (body : String) : Response := ⟨.ok, none, some "application/json", body⟩

/-- The response without its body. -/
def withoutBody (response : Response) : Response := { response with body := "" }

end Response

end MeshConsole
