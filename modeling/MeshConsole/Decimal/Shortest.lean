/-!
# Shortest decimals

The text of a binary floating-point number has the fewest digits that read back as the same number.

A finite number is `significand * 2 ^ exponent`. The reals that round to it fill an interval that
reaches half way to each neighbour, its ends included exactly when the significand is even. A grid
is the multiples of a power of ten. `shortest` takes the coarsest grid with a point in the interval
and of its points the one nearest to the number:

    number ──Kind.ofBits──▶ interval ──pointOn? (coarse to fine)──▶ digits and power of ten

If some point of a grid lies in the interval, so does the point next below or next above the
number, so only these two are tried. All arithmetic is exact, in `Nat`.
-/

namespace MeshConsole.Decimal

/-- Which of two equally near grid points is taken. -/
inductive Tie where
  | up
  | even
deriving Repr, DecidableEq

/-- A positive finite number `significand * 2 ^ exponent`. It is `crowded` when the next smaller
number is only half as far away as the next larger one. -/
structure Magnitude where
  significand : Nat
  exponent : Int
  crowded : Bool
deriving Repr, DecidableEq

/-- A decimal number `digits * 10 ^ exponent`. -/
structure Scaled where
  digits : Nat
  exponent : Int
deriving Repr, DecidableEq

/-- What a floating-point number is. -/
inductive Kind where
  | nan
  | infinite (negative : Bool)
  | finite (negative : Bool) (magnitude : Magnitude)
deriving Repr, DecidableEq

/-- Takes the 64 bits of a number apart: sign, eleven bits of exponent, 52 bits of fraction. -/
def Kind.ofBits (bits : Nat) : Kind :=
  let negative := (bits >>> 63) % 2 == 1
  let exponent : Nat := (bits >>> 52) % 2048
  let fraction : Nat := bits % 0x10000000000000
  if exponent = 2047 then
    if fraction = 0 then .infinite negative else .nan
  else if exponent = 0 then .finite negative ⟨fraction, -1074, false⟩
  else
    .finite negative
      ⟨0x10000000000000 + fraction, (exponent : Int) - 1075, fraction == 0 && exponent != 1⟩

/-- What a floating-point number is. -/
def Kind.of (x : Float) : Kind := .ofBits x.toBits.toNat

/-- The integer part of a finite number, toward zero. -/
def Magnitude.truncate (x : Magnitude) : Nat :=
  x.significand <<< x.exponent.toNat >>> (-x.exponent).toNat

/-! ### The interval on a grid

Lengths are counted in quarters of `2 ^ exponent`, so that the ends of the interval are whole. -/

/-- The number, in quarters. -/
def Magnitude.quarters (x : Magnitude) : Nat := 4 * x.significand

/-- The lower end of the interval, in quarters. -/
def Magnitude.lowQuarters (x : Magnitude) : Nat := x.quarters - if x.crowded then 1 else 2

/-- The upper end of the interval, in quarters. -/
def Magnitude.highQuarters (x : Magnitude) : Nat := x.quarters + 2

/-- How many common units one quarter has, against the grid of step `10 ^ power`. -/
def Magnitude.quarterUnits (x : Magnitude) (power : Int) : Nat :=
  Nat.pow 2 (x.exponent - 2).toNat * Nat.pow 10 (-power).toNat

/-- How many common units one step of the grid `10 ^ power` has. -/
def Magnitude.stepUnits (x : Magnitude) (power : Int) : Nat :=
  Nat.pow 10 power.toNat * Nat.pow 2 (2 - x.exponent).toNat

/-- Whether the grid point `point * 10 ^ power` rounds to the number. -/
def Magnitude.reads (x : Magnitude) (power : Int) (point : Nat) : Bool :=
  let place := point * x.stepUnits power
  let low := x.lowQuarters * x.quarterUnits power
  let high := x.highQuarters * x.quarterUnits power
  if x.significand % 2 = 0 then Nat.ble low place && Nat.ble place high
  else Nat.blt low place && Nat.blt place high

/-- Of the grid points next below and next above the number, the nearer one that reads back. -/
def Magnitude.pointOn? (tie : Tie) (x : Magnitude) (power : Int) : Option Nat :=
  let step := x.stepUnits power
  let place := x.quarters * x.quarterUnits power
  let below := place / step
  let above := below + 1
  match x.reads power below, x.reads power above with
  | false, false => none
  | true, false => some below
  | false, true => some above
  | true, true =>
    let twice := 2 * place
    let middle := (2 * below + 1) * step
    if twice < middle then some below
    else if twice > middle then some above
    else match tie with
      | .up => some above
      | .even => some (if below % 2 = 0 then below else above)

/-- Tries the grids `10 ^ power`, `10 ^ (power - 1)`, …, as many as the first argument says. -/
def Magnitude.search (tie : Tie) (x : Magnitude) : Nat → Int → Option Scaled
  | 0, _ => none
  | more + 1, power =>
    match x.pointOn? tie power with
    | some point => some ⟨point, power⟩
    | none => x.search tie more (power - 1)

/-- A power of ten that is larger than twice the number. -/
def Magnitude.ceiling (x : Magnitude) : Int :=
  ((x.significand.log2 : Int) + 2 + x.exponent) * 30103 / 100000 + 1

/-- The fewest digits that read back as the number, and of those the nearest. Seventeen digits
always suffice, and the search starts at most three grids too coarse. -/
def Magnitude.shortest (tie : Tie) (x : Magnitude) : Scaled :=
  (x.search tie 24 x.ceiling).getD ⟨x.significand, 0⟩

end MeshConsole.Decimal
