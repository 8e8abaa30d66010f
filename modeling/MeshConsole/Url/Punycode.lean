/-!
# Punycode

A label of a domain name that is not ASCII travels as ASCII: its ASCII characters in front, and
behind the last hyphen a sequence of numbers that say where the other characters are inserted, in
the order of their code points. A number is written in a mixed base whose thresholds adapt to the
numbers before it.
-/

namespace MeshConsole.Punycode

/-- The digits of the mixed base: 26 letters and ten figures. -/
def digitOf (n : Nat) : Char :=
  if n < 26 then Char.ofNat ('a'.toNat + n) else Char.ofNat ('0'.toNat + (n - 26))

/-- The value of a digit, in either case. -/
def valueOf? (c : Char) : Option Nat :=
  if c.isLower then some (c.toNat - 'a'.toNat)
  else if c.isUpper then some (c.toNat - 'A'.toNat)
  else if c.isDigit then some (c.toNat - '0'.toNat + 26)
  else none

/-- The threshold of the place `k` under a bias. -/
def threshold (bias k : Nat) : Nat :=
  if k ≤ bias then 1 else if k ≥ bias + 26 then 26 else k - bias

/-- Divides a number by 35 until it is at most 455, counting 36 for each division. -/
def settle : Nat → Nat → Nat → Nat
  | 0, count, delta => count + 36 * delta / (delta + 38)
  | more + 1, count, delta =>
    if delta > 455 then settle more (count + 36) (delta / 35)
    else count + 36 * delta / (delta + 38)

/-- The bias after a number, given how many characters there are now. -/
def adapt (delta points : Nat) (isFirst : Bool) : Nat :=
  let delta := if isFirst then delta / 700 else delta / 2
  settle 64 0 (delta + delta / points)

/-! ### Writing -/

/-- The digits of a number from the place `k` on. -/
def digitsFrom (bias : Nat) : Nat → Nat → Nat → List Char
  | 0, _, _ => []
  | more + 1, k, q =>
    let t := threshold bias k
    if q < t then [digitOf q]
    else digitOf (t + (q - t) % (36 - t)) :: digitsFrom bias more (k + 36) ((q - t) / (36 - t))

/-- The state of the writer: what it has written, in order, and the numbers it works with. -/
structure Writer where
  written : List Char
  delta : Nat
  bias : Nat
  handled : Nat

/-- One character of the label while the characters of code point `n` are inserted. -/
def Writer.step (basic n : Nat) (w : Writer) (c : Char) : Writer :=
  if c.toNat < n then { w with delta := w.delta + 1 }
  else if c.toNat = n then
    { written := w.written ++ digitsFrom w.bias 64 36 w.delta
      delta := 0
      bias := adapt w.delta (w.handled + 1) (w.handled == basic)
      handled := w.handled + 1 }
  else w

/-- Inserts the characters of the next code point, where `n` is the first one not yet considered. -/
def Writer.insert (basic : Nat) (label : List Char) (w : Writer × Nat) (point : Nat) :
    Writer × Nat :=
  let w' := { w.1 with delta := w.1.delta + (point - w.2) * (w.1.handled + 1) }
  let w' := label.foldl (Writer.step basic point) w'
  ({ w' with delta := w'.delta + 1 }, point + 1)

/-- The code points of a label that are not ASCII, in increasing order, each once. -/
def extendedPoints (label : List Char) : List Nat :=
  (((label.map Char.toNat).filter fun n => decide (n ≥ 0x80)).mergeSort Nat.ble).eraseDups

/-- The ASCII form of a label. -/
def encode (label : List Char) : List Char :=
  let basic := label.filter fun c => decide (c.toNat < 0x80)
  let start : Writer := ⟨[], 0, 72, basic.length⟩
  let (writer, _) := (extendedPoints label).foldl (Writer.insert basic.length label) (start, 0x80)
  let written := writer.written
  (if basic.isEmpty then [] else basic ++ ['-']) ++ written

/-! ### Reading -/

/-- Reads one number from the place `k` on. -/
def numberFrom? (bias : Nat) : Nat → Nat → Nat → Nat → List Char → Option (Nat × List Char)
  | 0, _, _, _, _ => none
  | _, _, _, _, [] => none
  | more + 1, k, weight, sum, c :: rest =>
    (valueOf? c).bind fun digit =>
      let t := threshold bias k
      let sum := sum + digit * weight
      if digit < t then some (sum, rest)
      else numberFrom? bias more (k + 36) (weight * (36 - t)) sum rest

/-- Inserts characters into a label as long as there are numbers. -/
def insertFrom? : Nat → List Char → Nat → Nat → Nat → List Char → Option (List Char)
  | _, label, _, _, _, [] => some label
  | 0, _, _, _, _, _ => none
  | more + 1, label, n, i, bias, cs => do
    let (delta, rest) ← numberFrom? bias cs.length 36 1 0 cs
    let length := label.length + 1
    let place := i + delta
    let n := n + place / length
    if n > 0x10FFFF || (Nat.ble 0xD800 n && Nat.ble n 0xDFFF) then none
    else
      let i := place % length
      insertFrom? more (label.take i ++ Char.ofNat n :: label.drop i) n (i + 1)
        (adapt delta length (label.all fun c => decide (c.toNat < 0x80))) rest

/-- The label that an ASCII form stands for. -/
def decode? (cs : List Char) : Option (List Char) :=
  let tail := (cs.reverse.takeWhile (· != '-')).reverse
  let front := cs.take (cs.length - tail.length)
  if front.isEmpty then insertFrom? cs.length [] 0x80 0 72 cs
  else insertFrom? tail.length front.dropLast 0x80 0 72 tail

end MeshConsole.Punycode
