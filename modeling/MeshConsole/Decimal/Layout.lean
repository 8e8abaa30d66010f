import MeshConsole.Decimal.Shortest

/-!
# Layouts of a number

A layout says how the shortest digits of a number are set: which numbers are written with a point
in place and which with an exponent, whether a positive exponent carries a sign, and which of two
equally near decimals is taken. The printers of this library differ in nothing else.
-/

namespace MeshConsole.Decimal

/-- How a number is written. The place of the leading digit is its power of ten: numbers whose
leading digit stands at `leastPlace` or above and below `endPlace` are written with a point. -/
structure Layout where
  tie : Tie
  leastPlace : Int
  endPlace : Int
  signedExponent : Bool
deriving Repr, DecidableEq

/-- The decimal digits of a natural number, most significant first. -/
def natural (n : Nat) : List Char := Nat.toDigits 10 n

/-- The decimal digits of an integer behind a minus sign where it is negative. -/
def integer (n : Int) : List Char :=
  if n < 0 then '-' :: natural n.natAbs else natural n.natAbs

/-- A sign in front of a text where the number is negative. -/
def signed (negative : Bool) (cs : List Char) : List Char :=
  if negative then '-' :: cs else cs

/-- `digits * 10 ^ exponent` with its point in place and at least one digit on either side. -/
def Scaled.positional (x : Scaled) : List Char :=
  let digits := natural x.digits
  let places := (-x.exponent).toNat
  if x.exponent ≥ 0 then digits ++ List.replicate x.exponent.toNat '0' ++ ['.', '0']
  else if places < digits.length then
    digits.take (digits.length - places) ++ '.' :: digits.drop (digits.length - places)
  else '0' :: '.' :: List.replicate (places - digits.length) '0' ++ digits

/-- The power of ten of the leading digit. -/
def Scaled.place (x : Scaled) : Int := (natural x.digits).length + x.exponent - 1

/-- One digit, the others behind a point, and the power of ten of the first. -/
def Scaled.exponential (x : Scaled) (signedExponent : Bool) : List Char :=
  let mantissa := match natural x.digits with
    | [] => []
    | [d] => [d]
    | d :: ds => d :: '.' :: ds
  let plus := if signedExponent && decide (x.place ≥ 0) then ['+'] else []
  mantissa ++ 'e' :: plus ++ integer x.place

/-- The text of a floating-point number. -/
def Layout.write (layout : Layout) (x : Float) : List Char :=
  match Kind.of x with
  | .nan => "NaN".toList
  | .infinite negative => signed negative "inf".toList
  | .finite negative magnitude =>
    if magnitude.significand = 0 then signed negative "0.0".toList
    else
      let scaled := magnitude.shortest layout.tie
      signed negative <|
        if layout.leastPlace ≤ scaled.place ∧ scaled.place < layout.endPlace then
          scaled.positional
        else scaled.exponential layout.signedExponent

end MeshConsole.Decimal
