import MeshConsole.Payload.Status
import MeshConsole.Text.Blank
import MeshConsole.Decimal.Layout

/-!
# Traces

A trace is the list of hops towards a target. It comes from one of two places: from the output of
a traceroute command that the node ran, or from the trace towards its uplink that the node keeps.

    output ──lines──▶ header and lines ──hopOfLine?──▶ hops

A line of the output is a hop if it has at least four words: its number, a name, an address in
parentheses, and a time. A line with fewer words says nothing about a hop and is passed over.
-/

namespace MeshConsole

open Text

/-- A hop of a trace. -/
structure Hop where
  hop : String
  hostname : String
  ip : String
  ping : String
deriving Repr, DecidableEq

namespace Trace

/-- A parenthesis of either kind. -/
def isParenthesis (c : Char) : Bool := c == '(' || c == ')'

/-- A text without the parentheses at both ends. -/
def trimParentheses (cs : List Char) : List Char :=
  ((cs.dropWhile isParenthesis).reverse.dropWhile isParenthesis).reverse

/-- The hop that a line of the output gives. -/
def hopOfLine? (line : List Char) : Option Hop :=
  match words line with
  | hop :: hostname :: ip :: ping :: _ =>
    some
      { hop := String.ofList hop
        hostname := String.ofList hostname
        ip := String.ofList (trimParentheses ip)
        ping := String.ofList ping }
  | _ => none

/-- The hops that the output of a traceroute gives. Its first line is a header. -/
def ofOutput (output : String) : List Hop :=
  ((lines output.toList).drop 1).filterMap hopOfLine?

/-- The unit of a time. -/
def millisecondUnit : List Char := ['m', 's']

/-- A time with its unit: the uplink trace gives bare milliseconds, a printed one has its unit. -/
def withUnit (ping : List Char) : List Char :=
  let ping := trimChars ping
  if ping.isEmpty || millisecondUnit.isSuffixOf ping then ping else ping ++ millisecondUnit

/-- The hop that an entry of the uplink trace gives; the field `host` wins over `hostname`. -/
def hopOfUplink (entry : UplinkHop) : Hop where
  hop := entry.hop
  hostname := (entry.host.or entry.hostname).getD ""
  ip := entry.ip
  ping := String.ofList (withUnit entry.ping.toList)

/-- The hops of the uplink trace. -/
def ofUplink (entries : List UplinkHop) : List Hop := entries.map hopOfUplink

/-! ### Summaries -/

/-- How many characters of an output without hops are quoted. -/
def previewLength : Nat := 200

/-- A number of hops as a text. -/
def hopCount (n : Nat) : String := String.ofList (Decimal.natural n) ++ " hop(s)"

/-- The beginning of the first line of an output. -/
def preview (output : String) : String :=
  let first := (firstLine? output).getD output
  if first.toList.length > previewLength then
    String.ofList (first.toList.take previewLength) ++ "..."
  else first

/-- The summary of an output and the hops it gave. -/
def summary (output : String) (hops : List Hop) : String :=
  if hops.isEmpty then "Traceroute: no hops parsed. First line: " ++ preview output
  else "Traceroute: " ++ hopCount hops.length

end Trace

end MeshConsole
