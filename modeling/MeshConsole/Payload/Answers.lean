import MeshConsole.Payload.Record

/-!
# The smaller payloads

Besides its status a node answers what it can do, which hosts it has learned behind its ports, and
the names of the nodes it knows.
-/

namespace MeshConsole

open Json

/-- What a node can do. -/
structure Capabilities where
  traceroute : Bool
  showAdminLink : Bool
deriving Repr, DecidableEq

/-- The names of the fields of capabilities, in declared order. -/
def Capabilities.names : List String := ["traceroute", "show_admin_link"]

/-- The capabilities with the given fields. -/
def Capabilities.ofFields (fields : Fields) : Capabilities where
  traceroute := fields.flag "traceroute"
  showAdminLink := fields.flag "show_admin_link"

instance : Payload Capabilities := .record Capabilities.names Capabilities.ofFields

/-- The capabilities of a node that sent null. -/
def Capabilities.absent : Capabilities := .ofFields []

/-- A port of a bridge and the hosts learned behind it. -/
structure Port where
  port : Option String
  bridge : Option String
  macs : List String
  ips : List String
  notes : Option String
deriving Repr, DecidableEq

/-- The names of a port's fields, in declared order. -/
def Port.names : List String := ["port", "bridge", "macs", "ips", "notes"]

/-- The port with the given fields. -/
def Port.ofFields (fields : Fields) : Port where
  port := fields.text? "port"
  bridge := fields.text? "bridge"
  macs := fields.texts "macs"
  ips := fields.texts "ips"
  notes := fields.text? "notes"

instance : Payload Port := .record Port.names Port.ofFields

/-- The ports of a node. -/
structure Connections where
  ports : List Port
deriving Repr, DecidableEq

/-- The connections with the given fields. -/
def Connections.ofFields (fields : Fields) : Connections where
  ports := fields.elements "ports"

instance : Payload Connections := .record ["ports"] Connections.ofFields

/-- The connections of a node that sent null. -/
def Connections.absent : Connections := .ofFields []

/-- The names of known nodes by address, in the order of the addresses. -/
structure Directory where
  names : List (String × String)
deriving Repr, DecidableEq

/-- The directory that a value gives: the entries that are objects with a name. A value that is no
object gives an empty directory. -/
def Directory.ofJson : Json → Directory
  | .object fields =>
    ⟨fields.filterMap fun entry =>
      ((field? "name" entry.2).bind cellText?).map (entry.1, ·)⟩
  | _ => ⟨[]⟩

instance : Payload Directory where
  form := anyForm
  ofJson? value := some (.ofJson value)

/-- The name of the node with the given address. -/
def Directory.name? (directory : Directory) (ip : String) : Option String :=
  directory.names.lookup ip

end MeshConsole
