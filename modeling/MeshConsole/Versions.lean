import MeshConsole.Json.Printer

/-!
# The versions panel

The node reports its versions as one JSON value. An object is shown as a list of entries: the keys
that operators look for come first, under labels of their own and in a fixed order, and all others
follow in the order of the object. Below the entries stands the whole value.
-/

namespace MeshConsole

/-- An entry of the panel. -/
structure PanelEntry where
  label : String
  value : String
deriving Repr, DecidableEq

/-- The panel: its entries, the whole value as text, and the note that replaces both if there is no
value at all. -/
structure Panel where
  entries : List PanelEntry
  raw : Option String
  note : Option String
deriving Repr, DecidableEq

namespace Panel

/-- The keys that are shown first, with their labels. -/
def preferred : List (String × String) :=
  [("hostname", "Hostname"), ("firmware", "Firmware"), ("kernel", "Kernel"), ("model", "Model"),
   ("autoupdate", "AutoUpdate"), ("wizards", "Wizards"), ("local_ips", "Local IPs")]

/-- A key that is shown first. -/
def isPreferred (key : String) : Bool := preferred.any fun entry => entry.1 == key

/-- The text of a value: a text itself, and the compact JSON of anything else. -/
def valueText : Json → String
  | .text s => s
  | value => value.compact

/-- The entry of a preferred key, if the object has the key. -/
def entryOfPreferred? (fields : Json.Fields) (entry : String × String) : Option PanelEntry :=
  (fields.lookup entry.1).map fun value => ⟨entry.2, valueText value⟩

/-- The entries of an object. -/
def entriesOf (fields : Json.Fields) : List PanelEntry :=
  preferred.filterMap (entryOfPreferred? fields) ++
    (fields.filter fun field => !isPreferred field.1).map fun field =>
      ⟨field.1, valueText field.2⟩

/-- The panel of a value. -/
def ofVersions : Json → Panel
  | .null => ⟨[], none, some "No versions data"⟩
  | .object fields => ⟨entriesOf fields, some (Json.pretty (.object fields)), none⟩
  | value => ⟨[], some (Json.pretty value), none⟩

end Panel

end MeshConsole
