import MeshConsole.Dashboard.Load

/-!
# Probing a node

A probe is one full load from an empty dashboard. It ends in a report of what was loaded and of
the regions that were not, or it fails: the load did not finish in time, or the node could not be
reached at all.
-/

namespace MeshConsole

/-- What a load has left on a dashboard, by the address of the node. -/
structure Report where
  node : String
  dashboard : Dashboard

namespace Report

/-- The regions that show a diagnostic, each with its text. An empty text does not count. -/
def problems (report : Report) : List (String × String) :=
  [("status", report.dashboard.overview.error.getD ""),
   ("connections", report.dashboard.connections.status),
   ("versions", report.dashboard.versions.status)].filter fun problem => !problem.2.isEmpty

/-- A region and the first line of its diagnostic. -/
def problemText (problem : String × String) : String :=
  problem.1 ++ ": " ++ (Text.firstLine? problem.2).getD ""

/-- A number of rows. -/
def count (rows : List Row) : String := String.ofList (Decimal.natural rows.length)

/-- The last line of a report. -/
def verdict (report : Report) : String :=
  if report.problems.isEmpty then "all regions loaded"
  else "problems: " ++ "; ".intercalate (report.problems.map problemText)

/-- A report as text: the node, how many records there are of each kind, the warning if it is called
for, and what is missing. -/
def text (report : Report) : String :=
  let dashboard := report.dashboard
  let overview := dashboard.overview
  "\n".intercalate <|
    [report.node ++ " (" ++ overview.ip ++ " - " ++ overview.hostname ++ ") uptime " ++
       overview.uptime,
     "devices=" ++ count dashboard.devices ++ " links=" ++ count dashboard.links ++
       " neighbors=" ++ count dashboard.neighbors ++
       " ports=" ++ count dashboard.connections.rows] ++
    (if dashboard.frequencyWarning then ["Warning: frequency overlap detected!"] else []) ++
    [report.verdict]

end Report

/-! ### Time -/

/-- A span of time in milliseconds. -/
structure Span where
  milliseconds : Nat
deriving Repr, DecidableEq

namespace Span

/-- A span of whole seconds. -/
def ofSeconds (n : Nat) : Span := ⟨1000 * n⟩

/-- The decimals of a second, without the zeros at the end. -/
def decimals (milliseconds : Nat) : List Char :=
  let digits := Decimal.natural (1000 + milliseconds)
  ((digits.drop 1).reverse.dropWhile (· == '0')).reverse

/-- A span in the largest unit of which it has at least one. -/
def text (span : Span) : String :=
  let seconds := span.milliseconds / 1000
  let rest := span.milliseconds % 1000
  String.ofList <|
    if span.milliseconds = 0 then "0ns".toList
    else if seconds = 0 then Decimal.natural rest ++ ['m', 's']
    else if rest = 0 then Decimal.natural seconds ++ ['s']
    else Decimal.natural seconds ++ '.' :: decimals rest ++ ['s']

end Span

/-! ### Probes -/

/-- Why a probe failed. -/
inductive ProbeFailure where
  | expired (node : String) (limit : Span)
  | unreachable (node : String) (diagnostic : String)
deriving Repr, DecidableEq

/-- The wording of a failure. -/
def ProbeFailure.message : ProbeFailure → String
  | expired node limit =>
    "probe of " ++ node ++ " timed out after " ++ limit.text ++ ": deadline has elapsed"
  | unreachable node diagnostic => "node " ++ node ++ " not reachable: " ++ diagnostic

/-- Whether a run takes longer than the limit. A node answers at once or never, and a request that
never reached the node takes no time. -/
def Run.expires (limit : Span) (run : Run) : Bool :=
  !run.finished || (limit.milliseconds == 0 && !run.received.isEmpty)

/-- Probes a node. The node counts as reachable if its capabilities arrived. -/
def Node.probe (node : Node) (thresholds : Thresholds) (limit : Span) :
    Except ProbeFailure Report :=
  let address := node.address.text
  let run := Dashboard.initial.loadAll node.deliver thresholds .directoryFirst
  let capabilities := run.dashboard.capabilities
  if run.expires limit then .error (.expired address limit)
  else if !capabilities.reachable then
    .error (.unreachable address (capabilities.error.getD ""))
  else .ok ⟨address, run.dashboard⟩

end MeshConsole
