/-!
# Reading decimals

Two kinds of decimal text are read: whole numbers that have to fit a word, and figures that are
rounded to the nearest floating-point number.

    figure   = [sign] (names | mantissa [exponent])
    names    = "inf" | "infinity" | "nan"                  in any mixture of case
    mantissa = digits ["." [digits]] | "." digits
    exponent = ("e" | "E") [sign] digits

Digits are ASCII digits; nothing may stand before or behind the number.
-/

namespace MeshConsole.Decimal

/-- The digits that a text begins with. -/
def digitRun (cs : List Char) : List Char := cs.takeWhile Char.isDigit

/-- What follows the digits that a text begins with. -/
def afterDigits (cs : List Char) : List Char := cs.dropWhile Char.isDigit

/-- The number that digits stand for. -/
def digitsValue (digits : List Char) : Nat :=
  digits.foldl (fun n c => 10 * n + (c.toNat - '0'.toNat)) 0

/-- The number that a non-empty sequence of digits stands for. -/
def natural? (cs : List Char) : Option Nat :=
  if cs.isEmpty || !cs.all Char.isDigit then none else some (digitsValue cs)

/-- A whole number of at most `most`, with or without a plus sign. -/
def unsigned? (most : Nat) (cs : List Char) : Option Nat :=
  let digits := match cs with
    | '+' :: rest => rest
    | _ => cs
  (natural? digits).filter (Nat.ble · most)

/-! ### Rounding to a floating-point number -/

/-- The floating-point number nearest to `coefficient * 10 ^ exponent`. Far outside the range of
floating-point numbers the answer is known without computing the power. -/
def nearest (coefficient : Nat) (exponent : Int) : Float :=
  if coefficient = 0 then 0.0
  else
    let place : Int := (Nat.toDigits 10 coefficient).length + exponent
    if place > 400 then 1.0 / 0.0
    else if place < -400 then 0.0
    else Float.ofScientific coefficient (decide (exponent < 0)) exponent.natAbs

/-- A number with its sign. -/
def withSign (negative : Bool) (x : Float) : Float := if negative then -x else x

/-- A sign, if there is one, and the text behind it. -/
def splitSign : List Char → Bool × List Char
  | '+' :: rest => (false, rest)
  | '-' :: rest => (true, rest)
  | rest => (false, rest)

/-- The power of ten that a text gives behind a mantissa; zero if there is nothing. -/
def exponent? : List Char → Option Int
  | [] => some 0
  | c :: rest =>
    if c = 'e' || c = 'E' then
      let (negative, digits) := splitSign rest
      (natural? digits).map fun n => if negative then -(n : Int) else n
    else none

/-- The number that a mantissa and an exponent give, without a sign. -/
def magnitude? (cs : List Char) : Option Float :=
  let whole := digitRun cs
  let (fraction, rest) := match afterDigits cs with
    | '.' :: rest => (digitRun rest, afterDigits rest)
    | rest => ([], rest)
  if whole.isEmpty && fraction.isEmpty then none
  else (exponent? rest).map fun power =>
    nearest (digitsValue (whole ++ fraction)) (power - fraction.length)

/-- The number that a name stands for. -/
def named? (cs : List Char) : Option Float :=
  let name := cs.map Char.toLower
  if name = "inf".toList || name = "infinity".toList then some (1.0 / 0.0)
  else if name = "nan".toList then some (0.0 / 0.0)
  else none

/-- Reads a figure. -/
def figure? (cs : List Char) : Option Float :=
  let (negative, rest) := splitSign cs
  ((named? rest).or (magnitude? rest)).map (withSign negative)

end MeshConsole.Decimal
