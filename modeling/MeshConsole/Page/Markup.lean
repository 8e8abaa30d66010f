import MeshConsole.Decimal.Layout

/-!
# Markup

A page is a sequence of pieces. A piece is either markup, which stands for itself and is fixed by
the design of the page, or text, which may come from anywhere and is escaped. Text of any kind can
therefore add no tag and end no attribute.

    Markup ──render──▶ text of the page

Pages are laid out in lines. A part of a page that is shown only sometimes, or repeatedly, leaves
a blank line where it begins and another one where it ends.
-/

namespace MeshConsole

/-- A piece of a page. -/
inductive Piece where
  | markup (source : String)
  | text (content : String)
deriving Repr, DecidableEq

/-- A part of a page. -/
abbrev Markup := List Piece

/-! ### Text of a page -/

/-- A character as text. The six characters that mean something inside markup are escaped. -/
def Piece.escapeChar : Char → List Char
  | '&' => "&amp;".toList
  | '<' => "&lt;".toList
  | '>' => "&gt;".toList
  | '"' => "&quot;".toList
  | '\'' => "&#x27;".toList
  | '/' => "&#x2F;".toList
  | c => [c]

/-- Characters as text. -/
def Piece.escape (cs : List Char) : List Char := cs.flatMap escapeChar

/-- The characters of a piece. -/
def Piece.chars : Piece → List Char
  | .markup source => source.toList
  | .text content => escape content.toList

namespace Markup

/-- The characters of a part of a page. -/
def chars (markup : Markup) : List Char := markup.flatMap Piece.chars

/-- The text of a page. -/
def render (markup : Markup) : String := String.ofList markup.chars

@[simp] theorem chars_nil : chars [] = [] := rfl

@[simp] theorem chars_cons (piece : Piece) (markup : Markup) :
    chars (piece :: markup) = piece.chars ++ chars markup := rfl

@[simp] theorem chars_append (first second : Markup) :
    chars (first ++ second) = chars first ++ chars second := by
  simp [chars, List.flatMap_append]

/-! ### Layout -/

/-- A line that is indented by a number of spaces. -/
def line (indent : Nat) (content : Markup) : Markup :=
  .markup (String.ofList (List.replicate indent ' ')) :: content ++ [.markup "\n"]

/-- Lines that are shown only sometimes. -/
def shownIf (indent : Nat) (shown : Bool) (content : Markup) : Markup :=
  line indent [] ++ if shown then content ++ line indent [] else []

/-- Lines that are repeated for each of a number of items. -/
def forEach {α : Type} (indent : Nat) (items : List α) (content : α → Markup) : Markup :=
  line indent [] ++ items.flatMap fun item => content item ++ line indent []

/-- A text between markup; nothing for an empty text. -/
def around (before : String) (text : String) (after : String) : Markup :=
  if text.isEmpty then [] else [.markup before, .text text, .markup after]

/-- A link to a host, shown by its name or address. -/
def webLink (address : String) : Markup :=
  [.markup "<a target=\"_blank\" href=\"https://", .text address, .markup "\">", .text address,
   .markup "</a>"]

end Markup

end MeshConsole
