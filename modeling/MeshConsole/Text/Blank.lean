import MeshConsole.Text.Split

/-!
# Blanks, words and lines

Text that a mesh node sends is cut in three ways: blanks are trimmed from its ends, a line of a
trace is split into words, and a body is split into lines.

    text ──lines──▶ lines ──words──▶ words        text ──trim──▶ text

A blank is a character with the Unicode property `White_Space`, which has twenty-five members; a
line ends at a line feed, and one carriage return in front of that line feed belongs to the end.
Words and lines are right folds over the characters, so each has one equation per character.
-/

namespace MeshConsole.Text

/-! ### Blanks -/

/-- The ranges of code points with the Unicode property `White_Space`, both ends included. -/
def blankRanges : List (Nat × Nat) :=
  [(0x09, 0x0D), (0x20, 0x20), (0x85, 0x85), (0xA0, 0xA0), (0x1680, 0x1680), (0x2000, 0x200A),
   (0x2028, 0x2029), (0x202F, 0x202F), (0x205F, 0x205F), (0x3000, 0x3000)]

/-- A character that has the Unicode property `White_Space`. -/
def isBlank (c : Char) : Bool :=
  blankRanges.any fun range => Nat.ble range.1 c.toNat && Nat.ble c.toNat range.2

/-- Characters without the blanks at both ends. -/
def trimChars (cs : List Char) : List Char :=
  ((cs.dropWhile isBlank).reverse.dropWhile isBlank).reverse

/-- A text without the blanks at both ends. -/
def trim (s : String) : String := String.ofList (trimChars s.toList)

/-! ### Words

A word is a maximal run of characters that are not blank. The fold keeps the run that the
characters seen so far begin with, and the words after it. -/

/-- Puts a finished run in front of the words after it, unless the run is empty. -/
def closeWord (run : List Char) (later : List (List Char)) : List (List Char) :=
  if run.isEmpty then later else run :: later

/-- One character in front of a leading run and the words after it. -/
def pushWordChar (c : Char) (seen : List Char × List (List Char)) :
    List Char × List (List Char) :=
  if isBlank c then ([], closeWord seen.1 seen.2) else (c :: seen.1, seen.2)

/-- The words of a text, in order. -/
def words (cs : List Char) : List (List Char) :=
  let seen := cs.foldr pushWordChar ([], [])
  closeWord seen.1 seen.2

/-! ### Lines -/

/-- A text without the one carriage return that it may end with. -/
def dropReturn (cs : List Char) : List Char :=
  if cs.getLast? = some '\r' then cs.dropLast else cs

/-- The lines made of the texts between line feeds. What stands behind the last line feed is a
line only if it is not empty, and it keeps its carriage return. -/
def closeLines (first : List Char) : List (List Char) → List (List Char)
  | [] => if first.isEmpty then [] else [first]
  | next :: later => dropReturn first :: closeLines next later

/-- The lines of a text, in order. -/
def lines (cs : List Char) : List (List Char) :=
  let pieces := splitFirst (· == '\n') cs
  closeLines pieces.1 pieces.2

/-- The first line of a text; none if the text is empty. -/
def firstLine? (s : String) : Option String :=
  (lines s.toList).head?.map String.ofList

/-! ### Small laws -/

@[simp] theorem words_nil : words [] = [] := rfl

@[simp] theorem lines_nil : lines [] = [] := rfl

theorem closeWord_of_ne_nil {run : List Char} (h : run ≠ []) (later : List (List Char)) :
    closeWord run later = run :: later := by
  cases run with
  | nil => exact absurd rfl h
  | cons c cs => rfl

/-- A blank in front of a text adds no word. -/
theorem words_cons_of_isBlank {c : Char} (h : isBlank c = true) (cs : List Char) :
    words (c :: cs) = words cs := by
  simp [words, pushWordChar, h, closeWord]

end MeshConsole.Text
