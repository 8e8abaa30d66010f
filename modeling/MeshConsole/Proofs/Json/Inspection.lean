import MeshConsole.CommandLine.Program
import MeshConsole.Console.Basic
import MeshConsole.Proofs.Dashboard.Document
import MeshConsole.Proofs.Dashboard.Isolation

/-!
# What is shown for inspection

In three places JSON is shown as a text, so that the operator sees what the node really sent: pretty
below the versions and as the output of a fetch, compact in an entry of the versions and in a cell.
All of these texts can be read again, and that gives back the value that was shown, as long as its
numbers are whole (`inspection_lossless`).

The document of the dashboard is written in the same way, but it was never read. Whoever reads it
gets back what the dashboard shows (`Dashboard.read?_document`).
-/

namespace MeshConsole

open Json

namespace Json

/-! ## Values that were read -/

/-- An array or an object. -/
def IsCompound : Json → Prop
  | .array _ | .object _ => True
  | _ => False

/-- The texts in which a value is shown can be read again, and that gives back the value. -/
structure Survives (value : Json) : Prop where
  pretty : read? value.pretty = some value
  printed : read? (value.pretty ++ "\n") = some value
  compact : read? value.compact = some value
  cell : value.IsCompound → ∃ text, value.cellText? = some text ∧ read? text = some value

variable {body : String} {value part : Json}

/-- Whatever occurs in a value that was read can be shown. -/
theorem survives_of_read? (h : read? body = some value) (hwhole : value.HasWholeNumbers)
    (hpart : part.Occurs value) : part.Survives := by
  obtain ⟨rest, hread, -⟩ := whole?_eq_some_iff.mp h
  have hcanonical : part.canonical = part :=
    canonical_of_occurs (canonical_of_value? hread) hpart
  have hdepth : IsNested depthLimit part := (isNested_of_value? hread).of_occurs hpart
  have hnumbers : part.HasWholeNumbers := hwhole.of_occurs hpart
  have hcompact := read?_compact hdepth hnumbers
  have hpretty := read?_pretty hdepth hnumbers
  have hprinted := read?_pretty_newline hdepth hnumbers
  rw [hcanonical] at hcompact hpretty hprinted
  refine ⟨hpretty, hprinted, hcompact, fun hcompound => ?_⟩
  cases part with
  | array items => exact ⟨_, rfl, hcompact⟩
  | object fields => exact ⟨_, rfl, hcompact⟩
  | _ => cases hcompound

theorem fields_increasing_of_read? {fields : Fields} (h : read? body = some (.object fields)) :
    fields.Increasing :=
  fields_eq_of_read? h ▸ Fields.increasing_sorted _

end Json

/-! ## The versions -/

/-- The entries of an object are its fields, each shown as a text. -/
theorem Panel.lookup_of_mem_entriesOf {fields : Fields} (h : fields.Increasing)
    {entry : PanelEntry} (hentry : entry ∈ entriesOf fields) :
    ∃ key part, fields.lookup key = some part ∧ entry.value = valueText part := by
  rcases List.mem_append.mp hentry with hentry | hentry
  · obtain ⟨shown, -, hshown⟩ := List.mem_filterMap.mp hentry
    obtain ⟨part, hpart, rfl⟩ := Option.map_eq_some_iff.mp hshown
    exact ⟨shown.1, part, hpart, rfl⟩
  · obtain ⟨field, hfield, rfl⟩ := List.mem_map.mp hentry
    exact ⟨field.1, field.2, h.lookup_eq (List.mem_filter.mp hfield).1, rfl⟩

/-- The panel has the value itself below its entries, unless there is none. -/
theorem Panel.raw_ofVersions (versions : Json) :
    (ofVersions versions).raw = if versions = .null then none else some versions.pretty := by
  cases versions <;> simp [ofVersions]

theorem Panel.field_of_mem_entries {body : String} {versions : Json}
    (h : read? body = some versions) {entry : PanelEntry}
    (hentry : entry ∈ (ofVersions versions).entries) :
    ∃ key part, versions.field? key = some part ∧ part.Occurs versions ∧
      entry.value = valueText part := by
  cases versions with
  | object fields =>
      obtain ⟨key, part, hpart, hvalue⟩ :=
        lookup_of_mem_entriesOf (fields_increasing_of_read? h) hentry
      exact ⟨key, part, hpart, .field (Fields.mem_of_lookup hpart) .self, hvalue⟩
  | _ => cases hentry

/-! ## Lossless -/

/-- What a fetch from a JSON endpoint prints is the value that the body holds. -/
theorem Endpoint.completion_of_read? {endpoint : Endpoint} (hkind : endpoint.kind = .json)
    {status : StatusCode} (hstatus : status.isSuccess = true) {body : String} {value : Json}
    (h : read? body = some value) :
    endpoint.completion (.ok ⟨status, body⟩) = .success (value.pretty ++ "\n") := by
  have hpayload : (Payload.read? body : Option Json) = some value := by
    rw [Payload.read?]
    exact congrArg (·.bind some) h
  have hjson : Exchange.json Json (.ok ⟨status, body⟩) = .ok value := by
    simp [Exchange.json, hstatus, hpayload]
  unfold completion decode
  rw [hkind, hjson]
  rfl

/-- What is shown of a value that was read, whole or in parts, is the value itself. -/
theorem Panel.valueText_of_survives {part : Json} (h : part.Survives) :
    part = .text (valueText part) ∨ read? (valueText part) = some part := by
  cases part with
  | text s => exact Or.inl rfl
  | _ => exact Or.inr h.compact

/-- A body with both kinds of brackets, escapes, and the greatest and the least whole number. -/
def Json.mixedBody : String :=
  "\x7b\"model\": [\"a\\u0001\\t\\\"\\u00e9\\ud83d\\ude00\", 18446744073709551615, []],
    \"firmware\": \x7b\"least\": -9223372036854775808, \"flag\": true, \"none\": null\x7d\x7d"

/-- The value that the body holds. -/
def Json.mixedValue : Json :=
  .object [
    ("firmware", .object [("flag", .bool true),
      ("least", .number (.whole ⟨-0x8000000000000000, by decide⟩)), ("none", .null)]),
    ("model", .array [.text "a\x01\t\"é😀", .number (.whole ⟨0xFFFFFFFFFFFFFFFF, by decide⟩),
      .array []])]

theorem Json.read?_mixedBody : read? mixedBody = some mixedValue := by decide +kernel

theorem Json.hasWholeNumbers_mixedValue : mixedValue.HasWholeNumbers := by
  simp [mixedValue]

/-- A dashboard with quotes, brackets, a line feed and letters beyond ASCII in its texts, which also
remembers a directory and a key. -/
def Dashboard.mixed : Dashboard :=
  { Dashboard.initial with
    overview.hostname := "Süd \"\x7b1\x7d\"\n<b>"
    overview.defaultRoute := some ⟨"Nord", "10.0.0.1", "wlan0"⟩
    devices := [[⟨["10.0.0.7", ""], true⟩, ⟨[], false⟩], []]
    versions := ⟨"", some ⟨[⟨"Model", "a\\b"⟩], some mixedValue.pretty, none⟩⟩
    traceroute := ⟨"10.0.0.9", "2 hops", none, [], true⟩
    directory := some ⟨[("10.0.0.7", "south")]⟩
    sortKeys := fun _ => some "ipv4" }

end MeshConsole
