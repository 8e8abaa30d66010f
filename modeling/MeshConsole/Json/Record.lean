import MeshConsole.Json.Reader

/-!
# Records

A record is a value with named fields. A text gives it in one of two forms:

* an object, in which a field of the record may stand only once; any other field is passed over;
* an array with the fields in their declared order, of which the last ones may be missing.

The form of a record says which of the two texts is accepted and how the value of each field is
read. What is read is a JSON value again, so that all further decoding is a function on values:

    text ──Form──▶ Json ──recordFields?──▶ Fields ──▶ record

Both texts lead to the same fields, and a missing field is simply not among them.
-/

namespace MeshConsole.Json

/-- A way to read a value that may open as many levels as the number says. -/
abbrev Form := Nat → Reader Json

/-- A value of any kind. -/
def anyForm : Form := value?

/-- Null, or a value of the given form. -/
def optionalForm (form : Form) : Form := fun depth cs =>
  match skipSpace cs with
  | 'n' :: rest => (afterWord? ['u', 'l', 'l'] rest).map (.null, ·)
  | rest => form depth rest

/-- An array whose items have the given form. -/
def listForm (form : Form) : Form := fun depth cs =>
  match skipSpace cs, depth with
  | '[' :: rest, deeper + 1 =>
    (arrayItems? (form deeper) rest).map fun (items, rest) => (.array items, rest)
  | _, _ => none

/-- An object whose fields, whatever their keys, have the given form. -/
def dictionaryForm (form : Form) : Form := fun depth cs =>
  match skipSpace cs, depth with
  | '\x7b' :: rest, deeper + 1 =>
    (objectMembers? (member? (form deeper)) rest).map fun (fields, rest) =>
      (.object (Fields.sorted fields), rest)
  | _, _ => none

/-! ### The two texts of a record -/

/-- Reads items for the given fields, at least one, up to the closing bracket. -/
def positionsFrom? : List (Reader Json) → Reader (List Json)
  | [], _ => none
  | item? :: later, cs => do
    let (item, rest) ← item? cs
    match skipSpace rest with
    | ',' :: rest =>
      let (items, rest) ← positionsFrom? later rest
      some (item :: items, rest)
    | ']' :: rest => some ([item], rest)
    | _ => none

/-- Reads the fields of a record by position, behind the opening bracket. -/
def positions? (readers : List (Reader Json)) (cs : List Char) : Option (List Json × List Char) :=
  match skipSpace cs with
  | ']' :: rest => some ([], rest)
  | _ => positionsFrom? readers cs

/-- Reads a member of an object if its key names a field, and passes over any other member. -/
def knownMember? (fields : List (String × Reader Json)) (cs : List Char) :
    Option (Option (String × Json) × List Char) := do
  let (key, rest) ← key? cs
  match fields.lookup key with
  | some read? =>
    let (value, rest) ← read? rest
    some (some (key, value), rest)
  | none =>
    let rest ← pass? rest
    some (none, rest)

/-- A record with the given fields, each in its own form. -/
def recordForm (fields : List (String × Form)) : Form := fun depth cs =>
  match skipSpace cs, depth with
  | '[' :: rest, deeper + 1 =>
    (positions? (fields.map fun field => field.2 deeper) rest).map fun (items, rest) =>
      (.array items, rest)
  | '\x7b' :: rest, deeper + 1 => do
    let readers := fields.map fun field => (field.1, field.2 deeper)
    let (members, rest) ← objectMembers? (knownMember? readers) rest
    let known := members.filterMap id
    if (known.map (·.1)).Nodup then some (.object known, rest) else none
  | _, _ => none

/-- The fields that a value gives to a record with the given field names. -/
def recordFields? (names : List String) : Json → Option Fields
  | .object fields => some fields
  | .array items => if items.length ≤ names.length then some (names.zip items) else none
  | _ => none

end MeshConsole.Json
