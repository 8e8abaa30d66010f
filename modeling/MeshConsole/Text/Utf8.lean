/-!
# UTF-8

Bodies, percent escapes and form data arrive as bytes. The reader takes one byte at a time and
remembers the character that is open: how many bytes it still owes and in which range the next
one has to lie. A byte that does not fit closes the open character as broken and is then read
as a first byte, so every broken stretch is as long as it can be and counts once.

    bytes ──pieces──▶ characters and broken stretches ──decodeLossy──▶ text
                                                      ──decode?──────▶ text, or none if broken
-/

namespace MeshConsole.Text

/-- A character whose first bytes have been read: the bytes it owes, the range of the next byte,
and the value of the bits so far. -/
structure OpenChar where
  owed : Nat
  low : Nat
  high : Nat
  value : Nat
deriving Repr, DecidableEq

/-- What a first byte means. -/
inductive FirstByte where
  /-- The byte is a character of its own. -/
  | whole (c : Char)
  /-- The byte opens a character. -/
  | opens (char : OpenChar)
  /-- No character begins with the byte. -/
  | broken
deriving Repr, DecidableEq

/-- Reads a byte as the first of a character. The ranges leave out longer spellings of shorter
characters, surrogates, and everything above U+10FFFF. -/
def firstByte (b : Nat) : FirstByte :=
  if b < 0x80 then .whole (Char.ofNat b)
  else if b < 0xC2 then .broken
  else if b < 0xE0 then .opens ⟨1, 0x80, 0xBF, b - 0xC0⟩
  else if b = 0xE0 then .opens ⟨2, 0xA0, 0xBF, 0⟩
  else if b = 0xED then .opens ⟨2, 0x80, 0x9F, 0xD⟩
  else if b < 0xF0 then .opens ⟨2, 0x80, 0xBF, b - 0xE0⟩
  else if b = 0xF0 then .opens ⟨3, 0x90, 0xBF, 0⟩
  else if b < 0xF4 then .opens ⟨3, 0x80, 0xBF, b - 0xF0⟩
  else if b = 0xF4 then .opens ⟨3, 0x80, 0x8F, 4⟩
  else .broken

/-- The open character after one more byte that fits. -/
def OpenChar.push (char : OpenChar) (b : Nat) : OpenChar :=
  ⟨char.owed - 1, 0x80, 0xBF, char.value * 64 + b % 64⟩

/-- A byte that fits an open character. -/
def OpenChar.accepts (char : OpenChar) (b : Nat) : Bool :=
  Nat.ble char.low b && Nat.ble b char.high

/-- The characters of a byte sequence, with `none` for each broken stretch. -/
def piecesFrom : Option OpenChar → List UInt8 → List (Option Char)
  | none, [] => []
  | some _, [] => [none]
  | none, b :: bs =>
    match firstByte b.toNat with
    | .whole c => some c :: piecesFrom none bs
    | .opens char => piecesFrom (some char) bs
    | .broken => none :: piecesFrom none bs
  | some char, b :: bs =>
    if char.accepts b.toNat then
      let next := char.push b.toNat
      if next.owed = 0 then some (Char.ofNat next.value) :: piecesFrom none bs
      else piecesFrom (some next) bs
    else
      match firstByte b.toNat with
      | .whole c => none :: some c :: piecesFrom none bs
      | .opens char => none :: piecesFrom (some char) bs
      | .broken => none :: none :: piecesFrom none bs

/-- The characters of a byte sequence from its start. -/
def pieces (bytes : List UInt8) : List (Option Char) := piecesFrom none bytes

/-- The character that stands for a broken stretch of bytes. -/
def replacement : Char := '\uFFFD'

/-- The text of a byte sequence, each broken stretch shown as one replacement character. -/
def decodeLossy (bytes : List UInt8) : List Char :=
  (pieces bytes).map fun piece => piece.getD replacement

/-- The text of a byte sequence, if no stretch of it is broken. -/
def decode? (bytes : List UInt8) : Option (List Char) := (pieces bytes).mapM id

/-- The bytes of a text. -/
def encode (cs : List Char) : List UInt8 := cs.flatMap String.utf8EncodeChar

@[simp] theorem encode_nil : encode [] = [] := rfl

@[simp] theorem encode_cons (c : Char) (cs : List Char) :
    encode (c :: cs) = String.utf8EncodeChar c ++ encode cs := rfl

end MeshConsole.Text
