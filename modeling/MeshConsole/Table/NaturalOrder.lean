import MeshConsole.Text.Lowercase
import MeshConsole.Text.Order

/-!
# The natural order of texts

Texts are sorted as people expect of names with numbers in them: `port2` comes before `port10`, and
case does not count. A text is cut into chunks, which are maximal runs of ASCII digits and maximal
runs of other characters:

    text ──chunks──▶ chunks ──compareChunks──▶ order

Chunks are compared in turn. Digits come before other characters; two runs of digits are compared by
value, whatever their length, and two other runs by their lower-case characters. Signs are ordinary
characters.
-/

namespace MeshConsole.NaturalOrder

/-- A maximal run of digits or of other characters. -/
inductive Chunk where
  | digits (run : List Char)
  | text (run : List Char)
deriving Repr, DecidableEq

/-- The characters of a chunk. -/
def Chunk.run : Chunk → List Char
  | .digits run => run
  | .text run => run

/-! ### Cutting a text -/

/-- A new chunk of one character. -/
def Chunk.single (c : Char) : Chunk := if c.isDigit then .digits [c] else .text [c]

/-- One character in front of chunks: it joins the first chunk if it is of the same kind. -/
def pushChar (c : Char) : List Chunk → List Chunk
  | .digits run :: later =>
    if c.isDigit then .digits (c :: run) :: later else .text [c] :: .digits run :: later
  | .text run :: later =>
    if c.isDigit then .digits [c] :: .text run :: later else .text (c :: run) :: later
  | [] => [.single c]

/-- The chunks of a text, in order. -/
def chunks (cs : List Char) : List Chunk := cs.foldr pushChar []

/-! ### Comparing -/

/-- Digits without the zeros in front. -/
def significant (digits : List Char) : List Char := digits.dropWhile (· == '0')

/-- Orders two runs of digits by value: the longer significant run is larger, and of two equally
long ones the one with the larger first difference. -/
def compareDigits (a b : List Char) : Ordering :=
  (compare (significant a).length (significant b).length).then
    (Text.comparePoints (significant a) (significant b))

/-- Orders two runs of other characters without regard to case. -/
def compareText (a b : List Char) : Ordering :=
  Text.comparePoints (Text.lowercase a) (Text.lowercase b)

/-- Orders two chunks. -/
def compareChunk : Chunk → Chunk → Ordering
  | .digits a, .digits b => compareDigits a b
  | .digits _, .text _ => .lt
  | .text _, .digits _ => .gt
  | .text a, .text b => compareText a b

/-- Orders two sequences of chunks by their first difference; a sequence comes before its
extensions. -/
def compareChunks (a b : List Chunk) : Ordering := List.compareLex compareChunk a b

/-- Orders two texts. -/
def compareTexts (a b : List Char) : Ordering := compareChunks (chunks a) (chunks b)

end MeshConsole.NaturalOrder
