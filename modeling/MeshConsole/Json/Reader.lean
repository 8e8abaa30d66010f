import MeshConsole.Json.Number
import MeshConsole.Json.Quoted

/-!
# Reading JSON

A reader takes characters and returns what it read with the characters behind it. The depth of
nesting is limited: each reader of a nested value is given the number of further levels it may open,
and recursion is on that number. Within one level the items follow each other in a loop that cannot
run longer than there are characters.

    value = space (null | true | false | numeral | quoted | array | object)

A value whose content nobody asks for is passed over by `pass?`, which keeps the open brackets on a
stack and has no limit of depth. It checks the form of the text, but not that a number is in range
or that a surrogate has its partner.
-/

namespace MeshConsole.Json

/-- A reader of an `α`. -/
abbrev Reader (α : Type) := List Char → Option (α × List Char)

/-- The levels of arrays and objects that a text may have. -/
def depthLimit : Nat := 127

/-- White space between tokens: space, tab, line feed and carriage return. -/
def isSpace (c : Char) : Bool := c == ' ' || c == '\t' || c == '\n' || c == '\r'

/-- What follows the white space at the start. -/
def skipSpace (cs : List Char) : List Char := cs.dropWhile isSpace

/-- What follows a word at the start. -/
def afterWord? : List Char → List Char → Option (List Char)
  | [], cs => some cs
  | w :: word, c :: cs => if w = c then afterWord? word cs else none
  | _ :: _, [] => none

/-! ### Arrays and objects -/

/-- Reads items up to the closing bracket, the first item first. -/
def itemsFrom? {α : Type} (item? : Reader α) : Nat → Reader (List α)
  | 0, _ => none
  | more + 1, cs => do
    let (item, rest) ← item? cs
    match skipSpace rest with
    | ',' :: rest =>
      let (items, rest) ← itemsFrom? item? more rest
      some (item :: items, rest)
    | ']' :: rest => some ([item], rest)
    | _ => none

/-- Reads the items of an array behind its opening bracket. -/
def arrayItems? {α : Type} (item? : Reader α) (cs : List Char) : Option (List α × List Char) :=
  match skipSpace cs with
  | ']' :: rest => some ([], rest)
  | _ => itemsFrom? item? cs.length cs

/-- Reads a key with the colon behind it. -/
def key? (cs : List Char) : Option (String × List Char) :=
  match skipSpace cs with
  | '"' :: rest => do
    let (key, rest) ← quoted? rest
    match skipSpace rest with
    | ':' :: rest => some (String.ofList key, rest)
    | _ => none
  | _ => none

/-- Reads members up to the closing brace. The reader of a member starts at its key. -/
def membersFrom? {α : Type} (member? : Reader α) : Nat → Reader (List α)
  | 0, _ => none
  | more + 1, cs => do
    let (member, rest) ← member? cs
    match skipSpace rest with
    | ',' :: rest =>
      let (members, rest) ← membersFrom? member? more rest
      some (member :: members, rest)
    | '\x7d' :: rest => some ([member], rest)
    | _ => none

/-- Reads the members of an object behind its opening brace. -/
def objectMembers? {α : Type} (member? : Reader α) (cs : List Char) :
    Option (List α × List Char) :=
  match skipSpace cs with
  | '\x7d' :: rest => some ([], rest)
  | _ => membersFrom? member? cs.length cs

/-- Reads a key and the value behind it. -/
def member? {α : Type} (value? : Reader α) (cs : List Char) :
    Option ((String × α) × List Char) := do
  let (key, rest) ← key? cs
  let (value, rest) ← value? rest
  some ((key, value), rest)

/-! ### Values -/

/-- Reads a value that may open as many levels as the first argument says. -/
def value? : Nat → Reader Json
  | depth, cs =>
    match skipSpace cs with
    | 'n' :: rest => (afterWord? ['u', 'l', 'l'] rest).map (.null, ·)
    | 't' :: rest => (afterWord? ['r', 'u', 'e'] rest).map (.bool true, ·)
    | 'f' :: rest => (afterWord? ['a', 'l', 's', 'e'] rest).map (.bool false, ·)
    | '"' :: rest => (quoted? rest).map fun (s, rest) => (.text (String.ofList s), rest)
    | '[' :: rest =>
      match depth with
      | 0 => none
      | deeper + 1 => (arrayItems? (value? deeper) rest).map fun (items, rest) =>
          (.array items, rest)
    | '\x7b' :: rest =>
      match depth with
      | 0 => none
      | deeper + 1 => (objectMembers? (member? (value? deeper)) rest).map fun (fields, rest) =>
          (.object (Fields.sorted fields), rest)
    | rest => do
      let (numeral, rest) ← numeral? rest
      let number ← numeral.value?
      some (.number number, rest)

/-- What a reader of a whole text returns if nothing but white space follows. -/
def whole? {α : Type} (read? : Reader α) (s : String) : Option α :=
  match read? s.toList with
  | some (a, rest) => if (skipSpace rest).isEmpty then some a else none
  | none => none

/-- Reads a text that holds one value. -/
def read? (s : String) : Option Json := whole? (value? depthLimit) s

/-! ### Passing over a value -/

/-- A bracket that has been opened and not yet closed. -/
inductive Bracket where
  | square
  | brace
deriving DecidableEq, Repr

/-- Where passing over continues. -/
inductive Passing where
  /-- In front of a value. -/
  | value
  /-- In front of a value or, straight behind an opening bracket, its closing one. -/
  | first
  /-- Behind a value, in front of a comma or a closing bracket. -/
  | behind
deriving DecidableEq, Repr

/-- What follows the key in front of a value inside an open bracket. -/
def passKey? : List Bracket → List Char → Option (List Char)
  | .brace :: _, cs =>
    match skipSpace cs with
    | '"' :: rest => do
      let rest ← passQuoted? rest
      match skipSpace rest with
      | ':' :: rest => some rest
      | _ => none
    | _ => none
  | _, cs => some cs

/-- What follows a value that opens no bracket. -/
def passScalar? (cs : List Char) : Option (List Char) :=
  match cs with
  | 'n' :: rest => afterWord? ['u', 'l', 'l'] rest
  | 't' :: rest => afterWord? ['r', 'u', 'e'] rest
  | 'f' :: rest => afterWord? ['a', 'l', 's', 'e'] rest
  | '"' :: rest => passQuoted? rest
  | rest => (numeral? rest).map (·.2)

/-- Passes over the rest of a value inside open brackets, in at most as many steps as the first
argument says. -/
def passFrom? : Nat → Passing → List Bracket → List Char → Option (List Char)
  | 0, _, _, _ => none
  | _ + 1, .behind, [], cs => some cs
  | more + 1, .behind, bracket :: outer, cs =>
    match bracket, skipSpace cs with
    | .square, ',' :: rest => passFrom? more .value (.square :: outer) rest
    | .square, ']' :: rest => passFrom? more .behind outer rest
    | .brace, ',' :: rest =>
      match passKey? [.brace] rest with
      | some rest => passFrom? more .value (.brace :: outer) rest
      | none => none
    | .brace, '\x7d' :: rest => passFrom? more .behind outer rest
    | _, _ => none
  | more + 1, .first, brackets, cs =>
    match brackets, skipSpace cs with
    | .square :: outer, ']' :: rest => passFrom? more .behind outer rest
    | .brace :: outer, '\x7d' :: rest => passFrom? more .behind outer rest
    | _, rest =>
      match passKey? brackets rest with
      | some rest => passFrom? more .value brackets rest
      | none => none
  | more + 1, .value, brackets, cs =>
    match skipSpace cs with
    | '[' :: rest => passFrom? more .first (.square :: brackets) rest
    | '\x7b' :: rest => passFrom? more .first (.brace :: brackets) rest
    | rest =>
      match passScalar? rest with
      | some rest => passFrom? more .behind brackets rest
      | none => none

/-- What follows a value that nobody reads. Every step takes at least one character, apart from
the step into the first item of a bracket and the last step. -/
def pass? (cs : List Char) : Option (List Char) := passFrom? (2 * cs.length + 2) .value [] cs

end MeshConsole.Json
