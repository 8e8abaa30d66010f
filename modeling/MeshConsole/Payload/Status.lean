import MeshConsole.Payload.Record

/-!
# The status of a node

The status is the main payload of a node: its identity, the devices on its own segment with the
settings of their radios, its routing links and neighbours, and the trace towards its uplink that
the node keeps at hand.
-/

namespace MeshConsole

open Json

/-- A device on the local segment of the node. -/
structure Device where
  ipv4 : Option String
  hwaddr : Option String
  hostname : Option String
  product : Option String
  uptime : Option String
  mode : Option String
  essid : Option String
  firmware : Option String
deriving Repr, DecidableEq

/-- The names of a device's fields, in declared order. -/
def Device.names : List String :=
  ["ipv4", "hwaddr", "hostname", "product", "uptime", "mode", "essid", "firmware"]

/-- The device with the given fields. -/
def Device.ofFields (fields : Fields) : Device where
  ipv4 := fields.text? "ipv4"
  hwaddr := fields.text? "hwaddr"
  hostname := fields.text? "hostname"
  product := fields.text? "product"
  uptime := fields.text? "uptime"
  mode := fields.text? "mode"
  essid := fields.text? "essid"
  firmware := fields.text? "firmware"

instance : Payload Device := .record Device.names Device.ofFields

/-- The settings of a radio as the device reports them. Frequency and channel width are numbers or
texts such as `5500 MHz`, depending on the firmware. -/
structure Wireless where
  frequency : Option Json
  chanbw : Option Json
  mode : Option String
deriving DecidableEq

/-- The names of the fields of radio settings, in declared order. -/
def Wireless.names : List String := ["frequency", "chanbw", "mode"]

/-- The radio settings with the given fields. -/
def Wireless.ofFields (fields : Fields) : Wireless where
  frequency := fields.value? "frequency"
  chanbw := fields.value? "chanbw"
  mode := fields.text? "mode"

instance : Payload Wireless := .record Wireless.names Wireless.ofFields

/-- What the node knows about the radio of one device. -/
structure Airos where
  wireless : Option Wireless
deriving DecidableEq

/-- The radio settings are a record themselves; if they are present and do not decode, the entry
does not decode either. -/
instance : Payload Airos where
  form := recordForm [("wireless", optionalForm (Payload.form Wireless))]
  ofJson? value :=
    (recordFields? ["wireless"] value).bind fun fields =>
      match fields.value? "wireless" with
      | none => some ⟨none⟩
      | some settings => (Payload.ofJson? settings).map fun wireless => ⟨some wireless⟩

/-- A link of the routing protocol. -/
structure Link where
  intf : Option String
  localAddress : Option String
  remoteAddress : Option String
  remoteHost : Option String
  quality : Option String
  neighborQuality : Option String
  cost : Option String
  routes : Option String
  nodes : Option String
deriving Repr, DecidableEq

/-- The names of a link's fields, in declared order. -/
def Link.names : List String :=
  ["intf", "local", "remote", "remote_host", "lq", "nlq", "cost", "routes", "nodes"]

/-- The link with the given fields. -/
def Link.ofFields (fields : Fields) : Link where
  intf := fields.text? "intf"
  localAddress := fields.text? "local"
  remoteAddress := fields.text? "remote"
  remoteHost := fields.text? "remote_host"
  quality := fields.text? "lq"
  neighborQuality := fields.text? "nlq"
  cost := fields.text? "cost"
  routes := fields.text? "routes"
  nodes := fields.text? "nodes"

instance : Payload Link := .record Link.names Link.ofFields

/-- A neighbour in the second routing protocol. -/
structure Neighbor where
  originator : Option String
  hostname : Option String
  bindto : Option String
  quality : Option String
  neighborQuality : Option String
  cost : Option String
  metric : Option String
deriving Repr, DecidableEq

/-- The names of a neighbour's fields, in declared order. -/
def Neighbor.names : List String :=
  ["originator", "hostname", "bindto", "lq", "nlq", "cost", "metric"]

/-- The neighbour with the given fields. -/
def Neighbor.ofFields (fields : Fields) : Neighbor where
  originator := fields.text? "originator"
  hostname := fields.text? "hostname"
  bindto := fields.text? "bindto"
  quality := fields.text? "lq"
  neighborQuality := fields.text? "nlq"
  cost := fields.text? "cost"
  metric := fields.text? "metric"

instance : Payload Neighbor := .record Neighbor.names Neighbor.ofFields

/-- A hop of the node's own trace towards its uplink. -/
structure UplinkHop where
  hop : String
  ip : String
  host : Option String
  hostname : Option String
  ping : String
deriving Repr, DecidableEq

/-- The names of an uplink hop's fields, in declared order. -/
def UplinkHop.names : List String := ["hop", "ip", "host", "hostname", "ping"]

/-- The uplink hop with the given fields. -/
def UplinkHop.ofFields (fields : Fields) : UplinkHop where
  hop := fields.text "hop"
  ip := fields.text "ip"
  host := fields.text? "host"
  hostname := fields.text? "hostname"
  ping := fields.text "ping"

instance : Payload UplinkHop := .record UplinkHop.names UplinkHop.ofFields

/-- The default route. A text is empty where the node gives none. -/
structure Route where
  hostname : String
  ip : String
  device : String
deriving Repr, DecidableEq

/-- The names of a route's fields, in declared order. -/
def Route.names : List String := ["hostname", "ip", "dev"]

/-- The route with the given fields. -/
def Route.ofFields (fields : Fields) : Route where
  hostname := fields.text "hostname"
  ip := fields.text "ip"
  device := fields.text "dev"

instance : Payload Route := .record Route.names Route.ofFields

/-- The route of a node that has none. -/
def Route.absent : Route := ⟨"", "", ""⟩

/-- A route of which anything is known. -/
def Route.isAvailable (route : Route) : Bool :=
  !(route.hostname.isEmpty && route.ip.isEmpty && route.device.isEmpty)

/-- The main payload of a node. -/
structure Status where
  hostname : Option String
  ip : Option String
  uptimeSeconds : Option String
  uptimeText : Option String
  devices : List Device
  airosdata : List (String × Airos)
  defaultRoute : Route
  links : List Link
  neighbors : List Neighbor
  olsr2On : Bool
  adminUrlField : Option String
  admin : Json
  traceToUplink : List UplinkHop
  traceTarget : Option String
deriving DecidableEq

/-- The names of the fields of a status, in declared order. -/
def Status.names : List String :=
  ["hostname", "ip", "uptime", "uptime_str", "devices", "airosdata", "default_route", "links",
   "neighbors", "olsr2_on", "admin_url", "admin", "trace_to_uplink", "trace_target"]

/-- The status with the given fields. -/
def Status.ofFields (fields : Fields) : Status where
  hostname := fields.text? "hostname"
  ip := fields.text? "ip"
  uptimeSeconds := fields.text? "uptime"
  uptimeText := fields.text? "uptime_str"
  devices := fields.elements "devices"
  airosdata := fields.entries "airosdata"
  defaultRoute := ((fields.lookup "default_route").bind Payload.ofJson?).getD Route.absent
  links := fields.elements "links"
  neighbors := fields.elements "neighbors"
  olsr2On := fields.flag "olsr2_on"
  adminUrlField := fields.text? "admin_url"
  admin := (fields.lookup "admin").getD .null
  traceToUplink := fields.elements "trace_to_uplink"
  traceTarget := fields.text? "trace_target"

instance : Payload Status := .record Status.names Status.ofFields

/-- The status of a node that sent null. -/
def Status.absent : Status := .ofFields []

/-- The address of the node's administration: the one under `admin`, else the older field. -/
def Status.adminUrl (status : Status) : Option String :=
  ((field? "url" status.admin).bind cellText?).or status.adminUrlField

/-- The uptime as a text for people if the node gives one, else as it is counted. -/
def Status.uptime (status : Status) : Option String := status.uptimeText.or status.uptimeSeconds

end MeshConsole
