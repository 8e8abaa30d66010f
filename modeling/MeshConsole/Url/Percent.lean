import MeshConsole.Text.Utf8
import MeshConsole.Json.Quoted

/-!
# Percent coding

A character that may not stand for itself in a part of a URL is written as the bytes of its UTF-8
form, each as a percent sign and two upper-case hexadecimal digits. Which characters those are
depends on the part. Decoding turns every percent sign with two hexadecimal digits back into a byte
and leaves any other percent sign as it is.
-/

namespace MeshConsole.Percent

/-- A hexadecimal digit in upper case. -/
def upperHex (n : Nat) : Char :=
  if n < 10 then Char.ofNat ('0'.toNat + n) else Char.ofNat ('A'.toNat + (n - 10))

/-- A byte in escaped form. -/
def escapeByte (b : UInt8) : List Char :=
  ['%', upperHex (b.toNat / 16), upperHex (b.toNat % 16)]

/-- A character in escaped form. -/
def escapeChar (c : Char) : List Char := (String.utf8EncodeChar c).flatMap escapeByte

/-- A text in which the characters that may not stand for themselves are escaped. -/
def encode (escapes : Char → Bool) (cs : List Char) : List Char :=
  cs.flatMap fun c => if escapes c then escapeChar c else [c]

/-! ### Which characters are escaped -/

/-- Controls, and every character that is not ASCII. They are escaped everywhere. -/
def inControls (c : Char) : Bool := c.toNat < 0x20 || c.toNat > 0x7E

/-- Escaped in a fragment. -/
def inFragment (c : Char) : Bool := inControls c || " \"<>\x60".toList.contains c

/-- Escaped in a query. -/
def inQuery (c : Char) : Bool := inControls c || " \"#<>".toList.contains c

/-- Escaped in the query of a special scheme. -/
def inSpecialQuery (c : Char) : Bool := inQuery c || c == '\''

/-- Escaped in a path. -/
def inPath (c : Char) : Bool := inQuery c || "?^\x60\x7b\x7d".toList.contains c

/-- Escaped in a user name or a password. -/
def inUserinfo (c : Char) : Bool := inPath c || "/:;=@[\\]|".toList.contains c

/-! ### Decoding -/

/-- The value of a byte that is a hexadecimal digit. -/
def hexByte? (b : UInt8) : Option Nat := Json.hexValue? (Char.ofNat b.toNat)

/-- The byte that two hexadecimal digits at the start give. -/
def hexPair? : List UInt8 → Option UInt8
  | high :: low :: _ => do
    let high ← hexByte? high
    let low ← hexByte? low
    some (UInt8.ofNat (16 * high + low))
  | _ => none

/-- The bytes that an escaped text stands for. The first argument says how many bytes still belong
to an escape that has been read. -/
def decodeFrom : Nat → List UInt8 → List UInt8
  | _, [] => []
  | more + 1, _ :: rest => decodeFrom more rest
  | 0, b :: rest =>
    if b = 0x25 then
      match hexPair? rest with
      | some byte => byte :: decodeFrom 2 rest
      | none => b :: decodeFrom 0 rest
    else b :: decodeFrom 0 rest

/-- The bytes that an escaped text stands for. -/
def decode (bytes : List UInt8) : List UInt8 := decodeFrom 0 bytes

end MeshConsole.Percent
