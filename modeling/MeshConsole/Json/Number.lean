import MeshConsole.Json.Basic
import MeshConsole.Decimal.Reader

/-!
# JSON numbers

    numeral  = ["-"] ("0" | digits not beginning with 0) ["." digits] [exponent]
    exponent = ("e" | "E") ["+" | "-"] digits

A numeral without fraction and exponent that fits 64 bits is a whole number; minus zero does not
count as one. Every other numeral becomes a floating-point number in two steps. First its digits
are collected into a 64-bit coefficient, and digits that no longer fit are dropped: a dropped digit
before the point raises the power of ten, and behind the point the first digit that does not fit
ends the collection. Then the coefficient is multiplied or divided once by the power of ten, in
floating-point arithmetic. A result beyond the largest finite number is refused.
-/

namespace MeshConsole.Json

open Decimal

/-- The parts of a numeral. -/
structure Numeral where
  negative : Bool
  whole : List Char
  fraction : Option (List Char)
  exponent : Option (Bool × List Char)
deriving Repr, DecidableEq

/-! ### Reading the parts -/

/-- The digits in front of the point: one zero, or digits that do not begin with zero. -/
def wholePart? (cs : List Char) : Option (List Char × List Char) :=
  match digitRun cs with
  | [] => none
  | '0' :: _ :: _ => none
  | digits => some (digits, afterDigits cs)

/-- The digits behind a point, if there is a point. -/
def fractionPart? : List Char → Option (Option (List Char) × List Char)
  | '.' :: rest =>
    if (digitRun rest).isEmpty then none else some (some (digitRun rest), afterDigits rest)
  | rest => some (none, rest)

/-- The sign and the digits of an exponent, if there is one. -/
def exponentPart? : List Char → Option (Option (Bool × List Char) × List Char)
  | c :: rest =>
    if c = 'e' || c = 'E' then
      let (negative, digits) := splitSign rest
      if (digitRun digits).isEmpty then none
      else some (some (negative, digitRun digits), afterDigits digits)
    else some (none, c :: rest)
  | [] => some (none, [])

/-- A sign, if there is one, and the text behind it. -/
def minus : List Char → Bool × List Char
  | '-' :: rest => (true, rest)
  | rest => (false, rest)

/-- Reads a numeral and returns the text behind it. -/
def numeral? (cs : List Char) : Option (Numeral × List Char) := do
  let (negative, rest) := minus cs
  let (whole, rest) ← wholePart? rest
  let (fraction, rest) ← fractionPart? rest
  let (exponent, rest) ← exponentPart? rest
  some (⟨negative, whole, fraction, exponent⟩, rest)

/-! ### The value of a numeral -/

/-- Collects digits behind a coefficient while the result fits 64 bits. Returns the coefficient and
the digits from the first one that does not fit. -/
def collect (coefficient : Nat) : List Char → Nat × List Char
  | [] => (coefficient, [])
  | d :: digits =>
    let next := 10 * coefficient + (d.toNat - '0'.toNat)
    if next < 0x10000000000000000 then collect next digits else (coefficient, d :: digits)

/-- A power of ten as a floating-point number, up to `10 ^ 308`. -/
def powerOfTen (n : Nat) : Float := Float.ofScientific 1 false n

/-- A coefficient times a power of ten, by one multiplication or by at most two divisions; none if
the result is not finite. -/
def scale? (coefficient : Nat) (power : Int) : Option Float :=
  let x := Float.ofNat coefficient
  if power ≥ 0 then
    if power ≤ 308 then
      let y := x * powerOfTen power.toNat
      if y.isInf then none else some y
    else if coefficient = 0 then some x else none
  else if power ≥ -308 then some (x / powerOfTen power.natAbs)
  else if power ≥ -616 then some (x / powerOfTen 308 / powerOfTen (power.natAbs - 308))
  else some 0.0

/-- The value of a numeral that has a fraction, an exponent, or too many digits. An exponent that
does not fit a signed word of 32 bits gives zero or is refused. -/
def floatValue? (numeral : Numeral) : Option Float := do
  let (front, dropped) := collect 0 numeral.whole
  let behind := numeral.fraction.getD []
  let (coefficient, unread) := collect front behind
  let power : Int := dropped.length - (behind.length - unread.length : Nat)
  let magnitude ← match numeral.exponent with
    | none => scale? coefficient power
    | some (negative, digits) =>
      let shift : Int := digitsValue digits
      if shift ≥ 0x80000000 then
        if coefficient ≠ 0 ∧ negative = false then none else some 0.0
      else scale? coefficient (if negative then power - shift else power + shift)
  some (withSign numeral.negative magnitude)

/-- The value of a numeral. -/
def Numeral.value? (numeral : Numeral) : Option Number :=
  let n := digitsValue numeral.whole
  let whole :=
    if numeral.fraction.isSome || numeral.exponent.isSome then none
    else if numeral.negative then (if n = 0 then none else Whole.negOfNat? n)
    else Whole.ofNat? n
  match whole with
  | some n => some (.whole n)
  | none => (floatValue? numeral).map .float

end MeshConsole.Json
