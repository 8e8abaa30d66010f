import MeshConsole.Json.Basic
import MeshConsole.Json.Quoted
import MeshConsole.Decimal.Layout

/-!
# Writing JSON

Two forms are written. The compact form has no white space. The pretty form puts each item and each
field on a line of its own, two spaces further in than the bracket around it, except that an empty
array or object stays on one line.
-/

namespace MeshConsole.Json

/-- Floating-point numbers have a point in place from `10 ^ -5` to below `10 ^ 16`; a positive
exponent carries its sign, and of two equally near decimals the even one is written. -/
def floatLayout : Decimal.Layout := ⟨.even, -5, 16, true⟩

/-- The text of a number. -/
def Number.write : Number → List Char
  | .whole n => Decimal.integer n.val
  | .float x => floatLayout.write x

/-- The text of a value that has no parts. -/
def writeBool (b : Bool) : List Char := if b then "true".toList else "false".toList

/-! ### Compact form -/

mutual

/-- A value in compact form. -/
def compactChars : Json → List Char
  | .null => "null".toList
  | .bool b => writeBool b
  | .number n => n.write
  | .text s => quote s.toList
  | .array items => '[' :: compactItems items ++ [']']
  | .object fields => '\x7b' :: compactFields fields ++ ['\x7d']

/-- Items in compact form, with commas between them. -/
def compactItems : List Json → List Char
  | [] => []
  | [item] => compactChars item
  | item :: next :: items => compactChars item ++ ',' :: compactItems (next :: items)

/-- Fields in compact form, with commas between them. -/
def compactFields : List (String × Json) → List Char
  | [] => []
  | [(key, value)] => quote key.toList ++ ':' :: compactChars value
  | (key, value) :: next :: fields =>
    quote key.toList ++ ':' :: compactChars value ++ ',' :: compactFields (next :: fields)

end

/-- A value in compact form. -/
def compact (value : Json) : String := String.ofList (compactChars value)

/-! ### Pretty form -/

/-- A line break and the spaces in front of a line of the given level. -/
def newLine (level : Nat) : List Char := '\n' :: List.replicate (2 * level) ' '

mutual

/-- A value in pretty form inside brackets of the given level. -/
def prettyChars (level : Nat) : Json → List Char
  | .null => "null".toList
  | .bool b => writeBool b
  | .number n => n.write
  | .text s => quote s.toList
  | .array [] => ['[', ']']
  | .array (item :: items) =>
    '[' :: prettyItems (level + 1) (item :: items) ++ newLine level ++ [']']
  | .object [] => ['\x7b', '\x7d']
  | .object (field :: fields) =>
    '\x7b' :: prettyFields (level + 1) (field :: fields) ++ newLine level ++ ['\x7d']

/-- Items in pretty form, each on a line of its own. -/
def prettyItems (level : Nat) : List Json → List Char
  | [] => []
  | [item] => newLine level ++ prettyChars level item
  | item :: next :: items =>
    newLine level ++ prettyChars level item ++ ',' :: prettyItems level (next :: items)

/-- Fields in pretty form, each on a line of its own. -/
def prettyFields (level : Nat) : List (String × Json) → List Char
  | [] => []
  | [(key, value)] => newLine level ++ quote key.toList ++ ':' :: ' ' :: prettyChars level value
  | (key, value) :: next :: fields =>
    newLine level ++ quote key.toList ++ ':' :: ' ' :: prettyChars level value ++
      ',' :: prettyFields level (next :: fields)

end

/-- A value in pretty form. -/
def pretty (value : Json) : String := String.ofList (prettyChars 0 value)

end MeshConsole.Json
