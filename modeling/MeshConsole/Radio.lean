import MeshConsole.Payload.Status
import MeshConsole.Text.Blank

/-!
# Radios and overlapping frequencies

The settings of a radio are normalised to whole megahertz. A radio occupies the band of its channel
width around its frequency. The operator is warned when the band of some radio straddles the
boundary between two regulated parts of the spectrum: it begins below the lower threshold and ends
above the upper one.
-/

namespace MeshConsole

open Decimal Text

/-- The thresholds between which the boundary lies, in megahertz. -/
structure Thresholds where
  low : Float
  high : Float
deriving Repr, DecidableEq

/-- The thresholds that hold unless the operator sets others. -/
def Thresholds.standard : Thresholds := ⟨5490, 5710⟩

/-- The normalised settings of a radio. -/
structure Radio where
  frequency : Option Int
  width : Option Int
  mode : Option String
deriving Repr, DecidableEq

namespace Radio

/-! ### Reading megahertz -/

/-- The least whole number of megahertz. -/
def leastMegahertz : Int := -0x8000000000000000

/-- The greatest whole number of megahertz. -/
def mostMegahertz : Int := 0x7FFFFFFFFFFFFFFF

/-- A whole number brought into the range of megahertz. -/
def clampMegahertz (n : Int) : Int := max leastMegahertz (min mostMegahertz n)

/-- A whole number that lies in the range of megahertz. -/
def inRange? (n : Int) : Option Int :=
  if leastMegahertz ≤ n ∧ n ≤ mostMegahertz then some n else none

/-- The integer part of a floating-point number, brought into range. -/
def truncateFloat (x : Float) : Int :=
  match Kind.of x with
  | .nan => 0
  | .infinite negative => if negative then leastMegahertz else mostMegahertz
  | .finite negative magnitude =>
    let n : Int := magnitude.truncate
    clampMegahertz (if negative then -n else n)

/-- Reads an optional minus sign and the digits behind it. Whatever follows is ignored. -/
def textMegahertz? (cs : List Char) : Option Int :=
  let (negative, rest) := match trimChars cs with
    | '-' :: rest => (true, rest)
    | rest => (false, rest)
  (natural? (digitRun rest)).bind fun n => inRange? (if negative then -(n : Int) else n)

/-- Reads a number of megahertz from a number, or from a text that begins with one. -/
def megahertz? : Json → Option Int
  | .number (.whole n) => some (clampMegahertz n.val)
  | .number (.float x) => some (truncateFloat x)
  | .text s => textMegahertz? s.toList
  | _ => none

/-- The radio with the given settings. -/
def ofWireless (wireless : Wireless) : Radio where
  frequency := wireless.frequency.bind megahertz?
  width := wireless.chanbw.bind megahertz?
  mode := wireless.mode

/-! ### Bands -/

/-- The band from half a channel width below the frequency to half a width above it; none if either
of them is unknown or zero. -/
def band? (radio : Radio) : Option (Float × Float) :=
  match radio.frequency.filter (· != 0), radio.width.filter (· != 0) with
  | some frequency, some width =>
    let half := Float.ofInt width / 2
    some (Float.ofInt frequency - half, Float.ofInt frequency + half)
  | _, _ => none

/-- A band that begins below the lower threshold and ends above the upper one. -/
def straddles (thresholds : Thresholds) (band : Float × Float) : Bool :=
  band.1 < thresholds.low && band.2 > thresholds.high

/-- Whether the band of some radio straddles the boundary. -/
def overlap (thresholds : Thresholds) (radios : List Radio) : Bool :=
  (radios.filterMap band?).any (straddles thresholds)

/-! ### Text -/

/-- The text of a radio, frequency before mode. -/
def summary (radio : Radio) : String :=
  let frequency := match radio.frequency with
    | some n => integer n ++ " MHz".toList
    | none => []
  String.ofList (trimChars (frequency ++ ' ' :: (radio.mode.getD "").toList))

/-- Bands and thresholds are written with a point in place from `10 ^ -4` to below `10 ^ 16`; of two
equally near decimals the larger is written. -/
def figureLayout : Layout := ⟨.up, -4, 16, false⟩

/-- The text of a figure in megahertz. -/
def figure (x : Float) : String := String.ofList (figureLayout.write x)

end Radio

end MeshConsole
