import MeshConsole.Url.Percent
import MeshConsole.Text.Split

/-!
# Form data

A query carries pairs of a name and a value as form data:

    form = [pair {"&" pair}]      pair = coded ["=" coded]

A letter, a digit and each of `*`, `-`, `.` and `_` is written as itself, a space as a plus sign,
and anything else is percent coded. Reading accepts more than writing produces: an empty stretch
between two ampersands gives no pair, a pair without an equals sign has an empty value, and bytes
that are not UTF-8 are replaced.
-/

namespace MeshConsole.Form

/-- A name and its value. -/
abbrev Pair := String × String

/-! ### Writing -/

/-- A character that is written as itself. -/
def standsForItself (c : Char) : Bool := c.isAlphanum || "*-._".toList.contains c

/-- A character as it is written. -/
def encodeChar (c : Char) : List Char :=
  if c = ' ' then ['+'] else if standsForItself c then [c] else Percent.escapeChar c

/-- A name or a value as it is written. -/
def encode (cs : List Char) : List Char := cs.flatMap encodeChar

/-- A pair as it is written. -/
def encodePair (pair : Pair) : List Char :=
  encode pair.1.toList ++ '=' :: encode pair.2.toList

/-! ### Reading -/

/-- A plus sign stands for a space. -/
def plusToSpace (b : UInt8) : UInt8 := if b = 0x2B then 0x20 else b

/-- The text of a name or a value. -/
def decode (bytes : List UInt8) : String :=
  String.ofList (Text.decodeLossy (Percent.decode (bytes.map plusToSpace)))

/-- The pair that a stretch between ampersands gives. -/
def decodePair (bytes : List UInt8) : Pair :=
  let (name, value) := Text.splitOnce (· == 0x3D) bytes
  (decode name, decode (value.getD []))

/-- The pairs of a form. -/
def pairs (cs : List Char) : List Pair :=
  ((Text.splitOn (· == 0x26) (Text.encode cs)).filter fun bytes => !bytes.isEmpty).map decodePair

end MeshConsole.Form
