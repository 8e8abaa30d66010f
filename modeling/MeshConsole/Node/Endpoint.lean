import MeshConsole.Url.Parser

/-!
# Endpoints of a node

A node answers at seven endpoints. Five answer with JSON; the information of the second routing
protocol and the on-demand traceroute are plain text. The address of a node is the URL of a folder
below which the endpoints lie.
-/

namespace MeshConsole

/-- An endpoint of a node. A traceroute needs to know its target. -/
inductive Endpoint where
  | capabilities
  | status
  | olsr2
  | nodedb
  | connections
  | versions
  | traceroute (target : String)
deriving Repr, DecidableEq

/-- What an endpoint answers with. -/
inductive PayloadKind where
  | json
  | text
deriving Repr, DecidableEq

namespace Endpoint

/-- The name of an endpoint. -/
def name : Endpoint → String
  | capabilities => "capabilities"
  | status => "status"
  | olsr2 => "olsr2"
  | nodedb => "nodedb"
  | connections => "connections"
  | versions => "versions"
  | traceroute _ => "traceroute"

/-- The endpoints that need no target. -/
def untargeted : List Endpoint := [capabilities, status, olsr2, nodedb, connections, versions]

/-- The endpoint of a name. A traceroute is one only with a target, which all others ignore. -/
def ofName? (name : String) (target : Option String) : Option Endpoint :=
  if name = "traceroute" then target.map traceroute
  else untargeted.find? fun endpoint => endpoint.name == name

/-- Where an endpoint lies below the address of the node. -/
def location : Endpoint → String
  | capabilities => "capabilities"
  | status => "status"
  | olsr2 => "olsr2"
  | nodedb => "nodedb.json"
  | connections => "connections.json"
  | versions => "versions.json"
  | traceroute _ => "traceroute"

/-- What an endpoint answers with. -/
def kind : Endpoint → PayloadKind
  | olsr2 | traceroute _ => .text
  | _ => .json

end Endpoint

/-- The address of a node: the URL of a folder. -/
structure Address where
  url : Url
deriving Repr, DecidableEq

namespace Address

/-- Reads the address of a node. A slash that is missing at the end of the path is added. -/
def parse (s : String) : Except UrlError Address := (Url.parse s).map fun url => ⟨url.asFolder⟩

/-- The text of an address. -/
def text (address : Address) : String := address.url.text

/-- The URL of a request to an endpoint. User name and password travel in a header instead. -/
def urlOf (address : Address) (endpoint : Endpoint) : Url :=
  let url := (address.url.child endpoint.location).withoutUserinfo
  match endpoint with
  | .traceroute target => url.addPair ("target", target)
  | _ => url

/-- The line that a request to an endpoint begins with. -/
def requestLine (address : Address) (endpoint : Endpoint) : String :=
  "GET " ++ (address.urlOf endpoint).withoutFragment.text

end Address

/-- What a request says about itself: nothing may be taken from a cache. -/
def requestHeaders : List (String × String) :=
  [("cache-control", "no-store"), ("pragma", "no-cache"), ("user-agent", "meshstatus/1.0.0")]

end MeshConsole
