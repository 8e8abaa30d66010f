import MeshConsole.Proofs.Json.Inspection
import MeshConsole.Proofs.Text.Lexicographic
import Mathlib.Data.List.Dedup

/-!
# The entries of the versions panel

The panel of an object has one entry for each of its fields (`Panel.Shows`). Which of them come first
is said by the list of preferred keys, and all others keep the order of the object, in which the keys
increase:

    fields ──lookup, in the order of the list──▶ preferred fields ┐
           ──filter────────────────────────────▶ other fields     ┴──entryOf──▶ entries

That nothing is lost and nothing shown twice is a matter of counting: the two parts together are a
rearrangement of the fields (`Panel.arranged_perm`), whatever keys the object has.
-/

namespace MeshConsole

open Json (Fields)

namespace Panel

/-- An entry shows a field. Its label is the one that is laid down for the key, or else the key. A
text is shown as it is, and any other value as compact JSON. -/
structure Shows (field : String × Json) (entry : PanelEntry) : Prop where
  label_eq : ∀ label, (field.1, label) ∈ preferred → entry.label = label
  label_eq_key : field.1 ∉ preferred.map Prod.fst → entry.label = field.1
  value_eq : ∀ s, field.2 = .text s → entry.value = s
  value_eq_compact : (∀ s, field.2 ≠ .text s) → entry.value = field.2.compact

/-! ## Entries of fields -/

/-- The entry of a field. -/
def entryOf (field : String × Json) : PanelEntry :=
  ⟨(preferred.lookup field.1).getD field.1, valueText field.2⟩

theorem isPreferred_iff {key : String} : isPreferred key = true ↔ key ∈ preferred.map Prod.fst := by
  simp [isPreferred]

/-- No preferred key has two labels. -/
theorem lookup_preferred : ∀ entry ∈ preferred, preferred.lookup entry.1 = some entry.2 := by decide

theorem shows_entryOf (field : String × Json) : Shows field (entryOf field) where
  label_eq label hlabel := by
    show (preferred.lookup field.1).getD field.1 = label
    rw [lookup_preferred _ hlabel]
    rfl
  label_eq_key hkey := by
    show (preferred.lookup field.1).getD field.1 = field.1
    rw [Json.lookup_of_not_mem_keys hkey]
    rfl
  value_eq s hs := by
    show valueText field.2 = s
    rw [hs]
    rfl
  value_eq_compact hs := by
    show valueText field.2 = field.2.compact
    cases hvalue : field.2 with
    | text s => exact absurd hvalue (hs s)
    | _ => rfl

/-! ## Fields in the order of their entries -/

/-- The fields under preferred keys, in the order of preference. -/
def preferredFields (fields : Fields) : Fields :=
  preferred.filterMap fun entry => (fields.lookup entry.1).map (entry.1, ·)

/-- The fields under other keys. -/
def otherFields (fields : Fields) : Fields := fields.filter fun field => !isPreferred field.1

theorem not_mem_of_mem_otherFields {fields : Fields} {field : String × Json}
    (h : field ∈ otherFields fields) : field.1 ∉ preferred.map Prod.fst := by
  rw [← isPreferred_iff]
  simpa using (List.mem_filter.mp h).2

theorem entriesOf_eq_map (fields : Fields) :
    entriesOf fields = (preferredFields fields ++ otherFields fields).map entryOf := by
  have hfirst : preferred.filterMap (entryOfPreferred? fields) =
      (preferredFields fields).map entryOf := by
    unfold preferredFields
    rw [List.map_filterMap]
    refine List.filterMap_congr fun entry hentry => ?_
    unfold entryOfPreferred? entryOf
    rw [Option.map_map]
    refine congrArg (Option.map · _) (funext fun value => ?_)
    simp [lookup_preferred entry hentry]
  have hothers : ((fields.filter fun field => !isPreferred field.1).map fun field =>
      PanelEntry.mk field.1 (valueText field.2)) = (otherFields fields).map entryOf := by
    refine List.map_congr_left fun field hfield => ?_
    unfold entryOf
    rw [Json.lookup_of_not_mem_keys (not_mem_of_mem_otherFields hfield)]
    rfl
  unfold entriesOf
  rw [hfirst, hothers, List.map_append]

theorem sublist_preferredFields (fields : Fields) :
    ((preferredFields fields).map Prod.fst).Sublist (preferred.map Prod.fst) := by
  unfold preferredFields
  -- The induction goes over the listed keys; the fields stay the same all along.
  generalize preferred = listed
  induction listed with
  | nil => exact .slnil
  | cons entry later ih =>
      rw [List.filterMap_cons, List.map_cons]
      cases fields.lookup entry.1 with
      | none => exact ih.cons _
      | some value => exact ih.cons_cons _

/-- The preferred fields of an object are those of its fields whose keys are preferred. -/
theorem preferredFields_perm {fields : Fields} (h : fields.Increasing) :
    (preferredFields fields).Perm (fields.filter fun field => isPreferred field.1) := by
  have hnodup : (preferredFields fields).Nodup :=
    ((sublist_preferredFields fields).nodup (by decide)).of_map _
  -- Neither side repeats a field, so it is enough that both have the same ones.
  refine (List.perm_ext_iff_of_nodup hnodup (h.keys_nodup.of_map.filter _)).mpr fun field => ?_
  rw [List.mem_filter, isPreferred_iff, preferredFields, List.mem_filterMap]
  constructor
  · rintro ⟨entry, hentry, hfield⟩
    obtain ⟨value, hvalue, rfl⟩ := Option.map_eq_some_iff.mp hfield
    exact ⟨Fields.mem_of_lookup hvalue, List.mem_map_of_mem hentry⟩
  · rintro ⟨hfield, hkey⟩
    obtain ⟨entry, hentry, hname⟩ := List.mem_map.mp hkey
    refine ⟨entry, hentry, ?_⟩
    rw [hname, h.lookup_eq hfield]
    rfl

/-- Preferred and other fields together are the fields of the object. -/
theorem arranged_perm {fields : Fields} (h : fields.Increasing) :
    (preferredFields fields ++ otherFields fields).Perm fields :=
  ((preferredFields_perm h).append_right _).trans
    (List.filter_append_perm (fun field => isPreferred field.1) fields)

end Panel

/-! ## The panel -/

/-- **The entries of the panel.** Let the keys of an object increase, as they do in every object that
was read. Then the entries of its panel show its fields, each once: first those under preferred keys,
in the order of preference, and then all others in the order of the bytes of their keys. A value of
any other kind has no entries. Any value but null is shown below the entries, and for null there is a
note in its place. -/
theorem ofVersions_entries :
    (∀ fields : Fields, fields.Increasing → ∃ first others : Fields,
      (first ++ others).Perm fields ∧
        List.Forall₂ Panel.Shows (first ++ others) (Panel.ofVersions (.object fields)).entries ∧
        (first.map Prod.fst).Sublist (Panel.preferred.map Prod.fst) ∧
        (∀ field ∈ others, field.1 ∉ Panel.preferred.map Prod.fst) ∧
        others.Pairwise fun a b => Text.encode a.1.toList < Text.encode b.1.toList) ∧
    (∀ value : Json, (∀ fields, value ≠ .object fields) → (Panel.ofVersions value).entries = []) ∧
    (∀ value : Json, ((Panel.ofVersions value).raw.isSome ↔ value ≠ .null) ∧
      ((Panel.ofVersions value).note.isSome ↔ value = .null)) ∧
    ∀ body (fields : Fields), Json.read? body = some (.object fields) → fields.Increasing := by
  refine ⟨fun fields h => ?_, fun value hvalue => ?_, fun value => ?_,
    fun body fields => Json.fields_increasing_of_read?⟩
  · refine ⟨Panel.preferredFields fields, Panel.otherFields fields, Panel.arranged_perm h, ?_,
      Panel.sublist_preferredFields fields, fun field => Panel.not_mem_of_mem_otherFields, ?_⟩
    · show List.Forall₂ Panel.Shows _ (Panel.entriesOf fields)
      rw [Panel.entriesOf_eq_map, List.forall₂_map_right_iff, List.forall₂_same]
      exact fun field _ => Panel.shows_entryOf field
    · refine (h.sublist List.filter_sublist).imp fun {a b} hlt => ?_
      have hcompares := Text.comparePoints_compares a.1.toList b.1.toList
      rw [show Text.comparePoints a.1.toList b.1.toList = .lt from hlt] at hcompares
      exact Text.encode_lt_encode hcompares
  · cases value with
    | object fields => exact absurd rfl (hvalue fields)
    | _ => rfl
  · cases value <;> simp [Panel.ofVersions]

/-- An object may have the label of a preferred key as a key of its own, and values that show as
nothing. -/
theorem ofVersions_entries_label :
    ∃ fields : Fields,
      Json.read? "\x7b\"zeta\":null,\"hostname\":\"\",\"Hostname\":[1]\x7d" = some (.object fields) ∧
        (∃ first others : Fields, (first ++ others).Perm fields ∧
          List.Forall₂ Panel.Shows (first ++ others) (Panel.ofVersions (.object fields)).entries ∧
          (first.map Prod.fst).Sublist (Panel.preferred.map Prod.fst) ∧
          (∀ field ∈ others, field.1 ∉ Panel.preferred.map Prod.fst) ∧
          others.Pairwise fun a b => Text.encode a.1.toList < Text.encode b.1.toList) ∧
        (Panel.ofVersions (.object fields)).entries =
          [⟨"Hostname", ""⟩, ⟨"Hostname", "[1]"⟩, ⟨"zeta", "null"⟩] ∧
        (Panel.ofVersions (.array [])).entries = [] := by
  obtain ⟨arranged, others, -, hread⟩ := ofVersions_entries
  have hbody : Json.read? "\x7b\"zeta\":null,\"hostname\":\"\",\"Hostname\":[1]\x7d" =
      some (.object [("Hostname", .array [.number (.whole ⟨1, by decide⟩)]),
        ("hostname", .text ""), ("zeta", .null)]) := by rfl
  exact ⟨_, hbody, arranged _ (hread _ _ hbody), by decide +kernel, others _ nofun⟩

end MeshConsole
