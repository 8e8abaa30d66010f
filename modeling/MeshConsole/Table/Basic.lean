import MeshConsole.Text.Blank

/-!
# Tables

What the dashboard shows of the node's records is five tables. Which columns a table has follows
from its identity alone; its rows consist of cells, and a cell holds lines of text.
-/

namespace MeshConsole

/-- The tables of the dashboard. -/
inductive TableId where
  | devices
  | links
  | neighbors
  | connections
  | traceroute
deriving Repr, DecidableEq

/-- A column: the key by which it is sorted and the label above it. -/
structure Column where
  key : String
  label : String
deriving Repr, DecidableEq

namespace TableId

/-- All tables. -/
def all : List TableId := [.devices, .links, .neighbors, .connections, .traceroute]

/-- The name of a table. -/
def name : TableId → String
  | .devices => "devices"
  | .links => "links"
  | .neighbors => "neighbors"
  | .connections => "connections"
  | .traceroute => "traceroute"

/-- The table of a name. -/
def ofName? (name : String) : Option TableId := all.find? fun id => id.name == name

/-- The columns of a table, from left to right. -/
def columns : TableId → List Column
  | .devices =>
    [⟨"ipv4", "Local IP"⟩, ⟨"hostname", "Hostname"⟩, ⟨"product", "Product"⟩, ⟨"uptime", "Uptime"⟩,
     ⟨"mode", "Mode"⟩, ⟨"essid", "ESSID"⟩, ⟨"firmware", "Firmware"⟩, ⟨"wireless", "Wireless"⟩]
  | .links =>
    [⟨"intf", "Interface"⟩, ⟨"local", "Local IP"⟩, ⟨"remote", "Remote IP"⟩,
     ⟨"remote_host", "Remote Host"⟩, ⟨"lq", "LQ"⟩, ⟨"nlq", "NLQ"⟩, ⟨"cost", "Cost"⟩,
     ⟨"routes", "Routes"⟩, ⟨"nodes", "Nodes"⟩]
  | .neighbors =>
    [⟨"originator", "Originator"⟩, ⟨"hostname", "Hostname"⟩, ⟨"bindto", "Bind To"⟩, ⟨"lq", "LQ"⟩,
     ⟨"nlq", "NLQ"⟩, ⟨"cost", "Cost"⟩, ⟨"metric", "Metric"⟩]
  | .connections =>
    [⟨"port", "Port"⟩, ⟨"bridge", "Bridge"⟩, ⟨"macs", "MACs"⟩, ⟨"ips", "IPs"⟩,
     ⟨"hostnames", "Hostnames"⟩, ⟨"notes", "Notes"⟩]
  | .traceroute =>
    [⟨"hop", "Hop"⟩, ⟨"ip", "IP"⟩, ⟨"hostname", "Hostname"⟩, ⟨"ping", "Ping"⟩]

end TableId

/-- A cell. A cell with several values has a line for each, and the lines of a cell that is marked
as a link are shown as links. -/
structure Cell where
  lines : List String
  link : Bool
deriving Repr, DecidableEq

namespace Cell

/-- A cell with one value, or none. -/
def ofText? (text : Option String) : Cell := ⟨text.toList, false⟩

/-- A cell with one value; an empty one leaves the cell empty. -/
def ofText (text : String) : Cell := ⟨if text.isEmpty then [] else [text], false⟩

/-- A cell with several values. -/
def ofLines (lines : List String) : Cell := ⟨lines, false⟩

/-- A cell with one value that is a link; an empty one leaves the cell empty. -/
def ofLink (text : String) : Cell := { ofText text with link := true }

/-- The text by which a cell is sorted: its lines, without the blanks at both ends. -/
def content (cell : Cell) : List Char :=
  Text.trimChars (List.intercalate ['\n'] (cell.lines.map String.toList))

/-! ### Contents -/

/-- A cell without lines has no content. -/
@[simp] theorem content_nil (link : Bool) : content ⟨[], link⟩ = [] := rfl

/-- The content of a cell with one line is the line without its blanks. -/
@[simp] theorem content_singleton (line : String) (link : Bool) :
    content ⟨[line], link⟩ = Text.trimChars line.toList := by
  simp [content]

/-- The lines of a cell count in their order, with a line feed between them. -/
theorem content_pair (first second : String) (link : Bool) :
    content ⟨[first, second], link⟩ =
      Text.trimChars (first.toList ++ '\n' :: second.toList) := by
  simp [content]

end Cell

/-- A row of cells, from left to right. -/
abbrev Row := List Cell

/-- A table with its rows from top to bottom. -/
structure Table where
  id : TableId
  rows : List Row
deriving Repr, DecidableEq

end MeshConsole
