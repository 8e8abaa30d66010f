import MeshConsole.Json.Printer

/-!
# Scalars of the node

The node is careless about kinds: a figure may come as a number or as a text, and a missing entry as
null, false, zero or an empty text. Every scalar is therefore shown by one rule. A falsy value has
no text; a true value, a text and a number have the obvious one; an array or an object has its
compact JSON.
-/

namespace MeshConsole.Json

/-- Zero, also as a floating-point number of either sign. -/
def Number.isZero : Number → Bool
  | .whole n => n.val == 0
  | .float x => x == 0.0

/-- The text that shows a value in a cell; none if the value is falsy. -/
def cellText? : Json → Option String
  | .null => none
  | .bool value => if value then some "true" else none
  | .text s => if s.isEmpty then none else some s
  | .number n => if n.isZero then none else some (String.ofList n.write)
  | .array items => some (compact (.array items))
  | .object fields => some (compact (.object fields))

/-- A value that counts as set. -/
def isTruthy (value : Json) : Bool := value.cellText?.isSome

/-- The items of an array as texts, an empty text for a falsy item, so that positions are kept. Any
other value has no items. -/
def texts (value : Json) : List String :=
  (value.items?.getD []).map fun item => item.cellText?.getD ""

end MeshConsole.Json
