import MeshConsole.Text.Blank
import MeshConsole.Text.Lowercase
import MeshConsole.Text.Utf8
import MeshConsole.Url.Punycode

/-!
# Domain names

A domain name is brought into its ASCII form: characters are mapped, the name is cut into labels,
and a label that is not ASCII is replaced by `xn--` and its Punycode.

    name ──mapChar──▶ mapped name ──labels──▶ labels ──asciiLabel?──▶ ASCII name

Mapping folds case and full-width forms, drops invisible characters, and turns the ideographic full
stops into full stops. A label that already begins with `xn--` has to stand for a label that mapping
leaves alone. No label length is checked, and empty labels are allowed.
-/

namespace MeshConsole.Domain

open Text

/-- An invisible character that does not count: soft hyphen, zero-width space and joiner controls,
variation selectors, and the byte order mark. -/
def isIgnored (c : Char) : Bool :=
  let n := c.toNat
  n == 0xAD || n == 0x200B || n == 0x2060 || n == 0x2064 || n == 0xFEFF || n == 0x34F ||
    (Nat.ble 0x180B n && Nat.ble n 0x180F) || (Nat.ble 0xFE00 n && Nat.ble n 0xFE0F) ||
    (Nat.ble 0xE0100 n && Nat.ble n 0xE01EF)

/-- A full stop of ideographic writing. -/
def isIdeographicStop (c : Char) : Bool := c == '\u3002' || c == '\uff61'

/-- The ASCII character of a full-width form, and any other character itself. -/
def narrow (c : Char) : Char :=
  if Nat.ble 0xFF01 c.toNat && Nat.ble c.toNat 0xFF5E then Char.ofNat (c.toNat - 0xFEE0) else c

/-- What a character of a name becomes. -/
def mapChar (c : Char) : List Char :=
  if isIgnored c then []
  else if isIdeographicStop c then ['.']
  else if isBlank c then [' ']
  else lowercaseChar (narrow c)

/-- A character that no domain name contains: a control, a private or unassigned code point. -/
def isForbiddenPoint (n : Nat) : Bool :=
  (Nat.ble 0x80 n && Nat.ble n 0x9F) || (Nat.ble 0x200E n && Nat.ble n 0x200F) ||
    (Nat.ble 0x2028 n && Nat.ble n 0x202E) || (Nat.ble 0xE000 n && Nat.ble n 0xF8FF) ||
    (Nat.ble 0xFDD0 n && Nat.ble n 0xFDEF) || (Nat.ble 0xFFF0 n && Nat.ble n 0xFFFF) ||
    Nat.ble 0xE0000 n

/-- An ASCII character that ends or garbles a host. -/
def isForbiddenAscii (c : Char) : Bool :=
  Nat.ble c.toNat 0x20 || c.toNat == 0x7F || "#%/:<>?@[\\]^|".toList.contains c

/-- A text of ASCII characters. -/
def isAscii (cs : List Char) : Bool := cs.all fun c => decide (c.toNat < 0x80)

/-- The mark in front of the Punycode of a label. -/
def punycodeMark : List Char := ['x', 'n', '-', '-']

/-- A label that Punycode may stand for: not ASCII, not empty, and left alone by mapping. -/
def isExtendedLabel (label : List Char) : Bool :=
  !isAscii label && label.flatMap mapChar == label && !label.any fun c => isForbiddenPoint c.toNat

/-- The ASCII form of a mapped label. -/
def asciiLabel? (label : List Char) : Option (List Char) :=
  if isAscii label then
    if punycodeMark.isPrefixOf label then
      match Punycode.decode? (label.drop punycodeMark.length) with
      | some extended => if isExtendedLabel extended then some label else none
      | none => none
    else some label
  else if label.any fun c => isForbiddenPoint c.toNat then none
  else some (punycodeMark ++ Punycode.encode label)

/-- The ASCII form of a domain name that is given in bytes. -/
def ofBytes? (bytes : List UInt8) : Option (List Char) := do
  let name ← decode? bytes
  let labels ← (splitOn (· == '.') (name.flatMap mapChar)).mapM asciiLabel?
  let ascii := List.intercalate ['.'] labels
  if ascii.any isForbiddenAscii then none else some ascii

end MeshConsole.Domain
