import MeshConsole.Url.Domain
import MeshConsole.Url.Percent
import MeshConsole.Decimal.Layout

/-!
# Hosts

    host = "[" IPv6 address "]" | IPv4 address | domain name

The host of a special scheme is a domain name unless it stands in brackets; a domain name whose last
label is a number has to be an IPv4 address, which may be written with fewer than four parts and in
octal or hexadecimal. The host of any other scheme is kept as it is.
-/

namespace MeshConsole

/-- Why a text is no URL. -/
inductive UrlError where
  | noScheme
  | emptyHost
  | domainName
  | ipv4Address
  | ipv6Address
  | hostCharacter
  | port
deriving Repr, DecidableEq

/-- The wording of an error. -/
def UrlError.message : UrlError → String
  | .noScheme => "relative URL without a base"
  | .emptyHost => "empty host"
  | .domainName => "invalid international domain name"
  | .ipv4Address => "invalid IPv4 address"
  | .ipv6Address => "invalid IPv6 address"
  | .hostCharacter => "invalid domain character"
  | .port => "invalid port number"

/-- The host of a URL. An IPv6 address is eight pieces of 16 bits. -/
inductive Host where
  | name (text : List Char)
  | ipv4 (address : Nat)
  | ipv6 (pieces : List Nat)
deriving Repr, DecidableEq

namespace Host

open Text

/-! ### IPv4 -/

/-- The value of digits in a base. -/
def valueIn (base : Nat) (digits : List Char) : Nat :=
  digits.foldl (fun n c => base * n + (Json.hexValue? c).getD 0) 0

/-- Digits of a base up to sixteen. -/
def allDigits (base : Nat) (digits : List Char) : Bool :=
  digits.all fun c => (Json.hexValue? c).any fun d => decide (d < base)

/-- The number that a part of an IPv4 address gives: hexadecimal behind `0x`, octal behind another
zero, else decimal. -/
def ipv4Part? (part : List Char) : Option Nat :=
  let (base, digits) := match part with
    | '0' :: x :: digits => if x == 'x' || x == 'X' then (16, digits) else (8, x :: digits)
    | _ => (10, part)
  if part.isEmpty || !allDigits base digits then none else some (valueIn base digits)

/-- The parts of a name between its full stops, without an empty last one. -/
def dottedParts (name : List Char) : List (List Char) :=
  let parts := splitOn (· == '.') name
  if parts.length > 1 && parts.getLast?.any List.isEmpty then parts.dropLast else parts

/-- A name whose last label is a number. -/
def endsInNumber (name : List Char) : Bool :=
  match (dottedParts name).getLast? with
  | some part => (!part.isEmpty && part.all Char.isDigit) || (ipv4Part? part).isSome
  | none => false

/-- Puts the numbers of an address together: each but the last fills one byte, the last one fills
the rest. -/
def ipv4OfNumbers? (numbers : List Nat) : Option Nat :=
  match numbers.getLast? with
  | none => none
  | some last =>
    let front := numbers.dropLast
    if front.length > 3 || front.any (· > 255) || last ≥ Nat.pow 256 (4 - front.length) then none
    else
      some (front.foldl (fun n byte => 256 * n + byte) 0 * Nat.pow 256 (4 - front.length) + last)

/-- Reads an IPv4 address. -/
def ipv4? (name : List Char) : Option Nat :=
  ((dottedParts name).mapM ipv4Part?).bind ipv4OfNumbers?

/-- The text of an IPv4 address. -/
def ipv4Text (address : Nat) : List Char :=
  List.intercalate ['.'] <|
    [address >>> 24, (address >>> 16) % 256, (address >>> 8) % 256, address % 256].map
      Decimal.natural

/-! ### IPv6 -/

/-- A byte in decimal, without zeros in front. -/
def plainByte? (digits : List Char) : Option Nat :=
  if digits.isEmpty || !digits.all Char.isDigit || (digits.length > 1 && digits.head? == some '0')
  then none
  else if valueIn 10 digits ≤ 255 then some (valueIn 10 digits) else none

/-- The last two pieces of an address that ends like an IPv4 address. -/
def dottedTail? (cs : List Char) : Option (List Nat) :=
  match (splitOn (· == '.') cs).mapM plainByte? with
  | some [a, b, c, d] => some [256 * a + b, 256 * c + d]
  | _ => none

/-- Reads pieces behind those already read. The gap is where an omitted run of zeros ends. -/
def piecesFrom? : Nat → List Nat → Option Nat → List Char → Option (List Nat × Option Nat)
  | _, pieces, gap, [] => some (pieces, gap)
  | 0, _, _, _ => none
  | more + 1, pieces, gap, c :: rest =>
    if pieces.length ≥ 8 then none
    else if c = ':' then
      if gap.isSome then none else piecesFrom? more (pieces ++ [0]) (some (pieces.length + 1)) rest
    else
      let digits := ((c :: rest).takeWhile fun d => (Json.hexValue? d).isSome).take 4
      match (c :: rest).drop digits.length with
      | [] => some (pieces ++ [valueIn 16 digits], gap)
      | ':' :: [] => none
      | ':' :: later => piecesFrom? more (pieces ++ [valueIn 16 digits]) gap later
      | '.' :: _ =>
        if digits.isEmpty || pieces.length > 6 then none
        else (dottedTail? (c :: rest)).map fun tail => (pieces ++ tail, gap)
      | _ => none

/-- Reads an IPv6 address. -/
def ipv6? (cs : List Char) : Option (List Nat) :=
  let start := match cs with
    | ':' :: ':' :: rest => piecesFrom? cs.length [0] (some 1) rest
    | ':' :: _ => none
    | cs => piecesFrom? cs.length [] none cs
  match start with
  | some (pieces, some gap) =>
    some (pieces.take gap ++ List.replicate (8 - pieces.length) 0 ++ pieces.drop gap)
  | some (pieces, none) => if pieces.length = 8 then some pieces else none
  | none => none

/-- How many pieces are zero at the start. -/
def leadingZeros (pieces : List Nat) : Nat := (pieces.takeWhile (· == 0)).length

/-- Where the first longest run of zeros begins, and its length. -/
def longestZeros (pieces : List Nat) : Nat × Nat :=
  (List.range pieces.length).foldl
    (fun best start =>
      let run := leadingZeros (pieces.drop start)
      if run > best.2 then (start, run) else best)
    (0, 0)

/-- The text of pieces with colons between them. -/
def piecesText (pieces : List Nat) : List Char :=
  List.intercalate [':'] (pieces.map (Nat.toDigits 16))

/-- The text of an IPv6 address. The first longest run of at least two zeros is left out. -/
def ipv6Text (pieces : List Nat) : List Char :=
  let (start, run) := longestZeros pieces
  if run < 2 then piecesText pieces
  else piecesText (pieces.take start) ++ [':', ':'] ++ piecesText (pieces.drop (start + run))

/-! ### Hosts -/

/-- Reads what stands in brackets, if anything does. -/
def bracketed? (cs : List Char) : Option (Except UrlError Host) :=
  match cs with
  | '[' :: rest =>
    some <|
      if rest.getLast? = some ']' then
        match ipv6? rest.dropLast with
        | some pieces => .ok (.ipv6 pieces)
        | none => .error .ipv6Address
      else .error .ipv6Address
  | _ => none

/-- Reads the host of a special scheme. -/
def special? (cs : List Char) : Except UrlError Host :=
  match bracketed? cs with
  | some host => host
  | none =>
    match Domain.ofBytes? (Percent.decode (encode cs)) with
    | none => .error .domainName
    | some [] => .error .emptyHost
    | some domain =>
      if endsInNumber domain then
        match ipv4? domain with
        | some address => .ok (.ipv4 address)
        | none => .error .ipv4Address
      else .ok (.name domain)

/-- A character that no host contains. -/
def isForbidden (c : Char) : Bool := c.toNat == 0 || "\t\n\r #/:<>?@[\\]^|".toList.contains c

/-- Reads the host of a scheme that is not special. -/
def general? (cs : List Char) : Except UrlError Host :=
  match bracketed? cs with
  | some host => host
  | none =>
    if cs.any isForbidden then .error .hostCharacter
    else .ok (.name (Percent.encode Percent.inControls cs))

/-- The text of a host. -/
def text : Host → List Char
  | .name text => text
  | .ipv4 address => ipv4Text address
  | .ipv6 pieces => '[' :: ipv6Text pieces ++ [']']

end Host

end MeshConsole
