import MeshConsole.Table.Basic
import MeshConsole.Payload.Answers
import MeshConsole.Radio
import MeshConsole.Trace

/-!
# Tables of records

Each kind of record has its table, with one row per record in the order of the records. A row looks
at its own record only, apart from two look-ups: the radio of a device is found under its address,
and the names behind a port are found in the node directory.
-/

namespace MeshConsole

/-- The radios of the node's devices by address. -/
abbrev Radios := List (String × Radio)

/-- The radio of a device; none if the device has no address or no radio is known for it. -/
def Device.radio? (radios : Radios) (device : Device) : Option Radio :=
  device.ipv4.bind fun ip => radios.lookup ip

/-- The row of a device: its two addresses in one cell, its settings, and its radio. -/
def Device.row (radios : Radios) (device : Device) : Row :=
  [.ofLines [device.ipv4.getD "", device.hwaddr.getD ""],
   .ofText? device.hostname,
   .ofText? device.product,
   .ofText? device.uptime,
   .ofText? device.mode,
   .ofText? device.essid,
   .ofText? device.firmware,
   .ofText (((device.radio? radios).map Radio.summary).getD "")]

/-- The row of a link. -/
def Link.row (link : Link) : Row :=
  [.ofText? link.intf,
   .ofText? link.localAddress,
   .ofText? link.remoteAddress,
   .ofText? link.remoteHost,
   .ofText? link.quality,
   .ofText? link.neighborQuality,
   .ofText? link.cost,
   .ofText? link.routes,
   .ofText? link.nodes]

/-- The row of a neighbour. -/
def Neighbor.row (neighbor : Neighbor) : Row :=
  [.ofText? neighbor.originator,
   .ofText? neighbor.hostname,
   .ofText? neighbor.bindto,
   .ofText? neighbor.quality,
   .ofText? neighbor.neighborQuality,
   .ofText? neighbor.cost,
   .ofText? neighbor.metric]

/-- The names of addresses, one line per address so that the lines stand beside the addresses. There
are no lines if no address has a name, or if there is no directory to look in. -/
def Directory.hostnames (directory : Option Directory) (ips : List String) : List String :=
  match directory with
  | none => []
  | some directory =>
    let names := ips.map directory.name?
    if names.all Option.isNone then [] else names.map fun name => name.getD ""

/-- The row of a port. -/
def Port.row (directory : Option Directory) (port : Port) : Row :=
  [.ofText? port.port,
   .ofText? port.bridge,
   .ofLines port.macs,
   .ofLines port.ips,
   .ofLines (Directory.hostnames directory port.ips),
   .ofText? port.notes]

/-- The row of a hop, whose address and name are links. -/
def Hop.row (hop : Hop) : Row :=
  [.ofText hop.hop, .ofLink hop.ip, .ofLink hop.hostname, .ofText hop.ping]

namespace Table

/-- The table of devices. -/
def ofDevices (radios : Radios) (devices : List Device) : Table :=
  ⟨.devices, devices.map (Device.row radios)⟩

/-- The table of links. -/
def ofLinks (links : List Link) : Table := ⟨.links, links.map Link.row⟩

/-- The table of neighbours. -/
def ofNeighbors (neighbors : List Neighbor) : Table := ⟨.neighbors, neighbors.map Neighbor.row⟩

/-- The table of ports. -/
def ofPorts (directory : Option Directory) (ports : List Port) : Table :=
  ⟨.connections, ports.map (Port.row directory)⟩

/-- The table of a trace. -/
def ofHops (hops : List Hop) : Table := ⟨.traceroute, hops.map Hop.row⟩

end Table

end MeshConsole
