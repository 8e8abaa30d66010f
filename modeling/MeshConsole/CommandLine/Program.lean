import MeshConsole.CommandLine.Invocation
import MeshConsole.CommandLine.Schedule
import MeshConsole.Console.Probe

/-!
# The program

What an invocation prints and how it ends. The program ends with code 0 if all went well, with 1 if
something failed, and with 2 if it was called wrongly or if a probe failed. It does not end by
itself if it waits for an answer that never comes, or once the console has started; then there is no
completion.
-/

namespace MeshConsole

/-- How the program ends: its code, what it prints, and what it complains about. -/
structure Completion where
  code : Nat
  output : String
  complaint : String
deriving Repr, DecidableEq

namespace Completion

/-- All went well. -/
def success (output : String) : Completion := ⟨0, output, ""⟩

/-- Something failed. -/
def failure (reason : String) : Completion := ⟨1, "", "Error: " ++ reason ++ "\n"⟩

/-- The program was called wrongly, or a probe failed. -/
def refusal : Completion := ⟨2, "", ""⟩

end Completion

/-! ### Starting the console -/

/-- Why the console cannot start. -/
inductive StartFault where
  | url (error : UrlError)
  | schedule
  | address
  | port
deriving Repr, DecidableEq

/-- The wording of a fault. -/
def StartFault.message : StartFault → String
  | url error => error.message
  | schedule => "ParseSchedule"
  | address => "invalid socket address"
  | port => "invalid port value"

/-- The greatest number of a port. -/
def mostPort : Nat := 65535

/-- What is wrong with the address that the console should listen at: it has no colon, or no port
behind the last one. -/
def bindFault? (address : String) : Option StartFault :=
  match (Text.splitOn (· == ':') address.toList).reverse with
  | port :: _ :: _ =>
    match Decimal.unsigned? mostPort port with
    | some _ => none
    | none => some .port
  | _ => some .address

/-- What keeps the console from starting: the address of the node, the schedule and the address to
listen at are looked at in this order. -/
def Settings.startFault? (settings : Settings) : Option StartFault :=
  match Address.parse settings.nodeUrl with
  | .error error => some (.url error)
  | .ok _ =>
    if Schedule.isSchedule settings.refreshSchedule then bindFault? settings.bindAddress
    else some .schedule

/-! ### Fetching and probing -/

/-- What a fetched payload prints. -/
def Fetched.printed : Fetched → String
  | json value => value.pretty
  | text value => value

/-- What comes of a fetch from an endpoint. -/
def Endpoint.completion (endpoint : Endpoint) (exchange : Exchange) : Completion :=
  match endpoint.decode exchange with
  | .ok fetched => .success (fetched.printed ++ "\n")
  | .error failure => .failure (endpoint.name ++ " failed: " ++ failure.diagnostic)

namespace Settings

/-- Probes the node of the settings, within the given seconds or those of the settings. -/
def probe (settings : Settings) (nodeAt : Address → Node) (seconds : Option Nat) : Completion :=
  match Address.parse settings.nodeUrl with
  | .error _ => .refusal
  | .ok address =>
    let limit := Span.ofSeconds (seconds.getD settings.probeSeconds)
    match (nodeAt address).probe settings.thresholds limit with
    | .ok report => .success (report.text ++ "\n")
    | .error _ => .refusal

/-- Fetches from the named endpoint of the node of the settings. -/
def fetch (settings : Settings) (nodeAt : Address → Node) (name : String)
    (target : Option String) : Option Completion :=
  match Endpoint.ofName? name target with
  | none => some (.failure ("unknown endpoint '" ++ name ++ "' (traceroute needs --target)"))
  | some endpoint =>
    match Address.parse settings.nodeUrl with
    | .error error => some (.failure error.message)
    | .ok address => ((nodeAt address).deliver endpoint).exchange?.map endpoint.completion

end Settings

/-- Runs the program. How the node at an address behaves is not known to the program beforehand. -/
def Invocation.run (settings : Settings) (nodeAt : Address → Node) :
    Invocation → Option Completion
  | inform text => some (.success text)
  | misuse => some .refusal
  | serve => settings.startFault?.map fun fault => .failure fault.message
  | probe seconds => some (settings.probe nodeAt seconds)
  | fetch endpoint target => settings.fetch nodeAt endpoint target

end MeshConsole
