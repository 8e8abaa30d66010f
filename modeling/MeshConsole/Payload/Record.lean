import MeshConsole.Json.Record
import MeshConsole.Payload.Scalar

/-!
# Decoding payloads

A payload type says in which form its text is read and what value it makes of the result. Records
whose fields are all of the lenient kind are given by their field names and by one function from
fields to the record; a field that is missing, or odd, never makes such a record fail.
-/

namespace MeshConsole

open Json

/-- A type of values that the node sends. -/
class Payload (α : Type) where
  /-- How the text is read. -/
  form : Form
  /-- What a value means. -/
  ofJson? : Json → Option α

namespace Payload

/-- Reads a text that holds one payload. -/
def read? {α : Type} [Payload α] (s : String) : Option α :=
  (whole? (form α depthLimit) s).bind ofJson?

/-- A record of lenient fields. -/
@[reducible]
def record {α : Type} (names : List String) (build : Fields → α) : Payload α where
  form := recordForm (names.map fun name => (name, anyForm))
  ofJson? value := (recordFields? names value).map build

/-- Any value is a payload. -/
instance : Payload Json where
  form := anyForm
  ofJson? := some

/-- A payload or null. -/
instance {α : Type} [Payload α] : Payload (Option α) where
  form := optionalForm (form α)
  ofJson?
    | .null => some none
    | value => (ofJson? value).map some

/-- A list of payloads, none of which may fail. -/
instance {α : Type} [Payload α] : Payload (List α) where
  form := listForm (form α)
  ofJson? value := value.items?.bind fun items => items.mapM ofJson?

/-- Payloads under the keys of an object, none of which may fail. -/
@[reducible]
def dictionary {α : Type} [Payload α] : Payload (List (String × α)) where
  form := dictionaryForm (form α)
  ofJson?
    | .object fields => fields.mapM fun field => (ofJson? field.2).map (field.1, ·)
    | _ => none

end Payload

/-! ### Lenient fields -/

namespace Json.Fields

/-- The text of a field; none if it is missing or falsy. -/
def text? (fields : Fields) (name : String) : Option String :=
  (fields.lookup name).bind cellText?

/-- The text of a field; empty if it is missing or falsy. -/
def text (fields : Fields) (name : String) : String := (fields.text? name).getD ""

/-- Whether a field is present and set. -/
def flag (fields : Fields) (name : String) : Bool := (fields.lookup name).any isTruthy

/-- The items of a field as texts. -/
def texts (fields : Fields) (name : String) : List String :=
  ((fields.lookup name).map Json.texts).getD []

/-- The value of a field; none if it is missing or null. -/
def value? (fields : Fields) (name : String) : Option Json :=
  (fields.lookup name).bind present?

/-- The items of a field that are payloads. Other items are left out, and a field that is no array
has no items. -/
def elements {α : Type} [Payload α] (fields : Fields) (name : String) : List α :=
  (((fields.lookup name).bind items?).getD []).filterMap Payload.ofJson?

/-- The entries of a field that are payloads, under their keys. Other entries are left out, and a
field that is no object has no entries. -/
def entries {α : Type} [Payload α] (fields : Fields) (name : String) : List (String × α) :=
  match fields.lookup name with
  | some (.object members) =>
    members.filterMap fun member => (Payload.ofJson? member.2).map (member.1, ·)
  | _ => []

end Json.Fields

end MeshConsole
