import MeshConsole.Proofs.Json.Inspection
import MeshConsole.Proofs.Payload.Counts

/-!
# Items and entries

What a payload holds of records and texts is said here of the value that it was decoded from:

    value ──itemsUnder──▶ items, in order      ──▶ records, texts
    value ──entryUnder?─▶ entry under a key    ──▶ record found under the key

Entries are found by their keys, and a field that is repeated in an object would make two answers
possible. But whatever stands in a payload is canonical, so that no key is repeated there
(`Exchange.canonical_under?`).
-/

namespace MeshConsole

open Json (Fields)

namespace Json

/-- The items of the array that stands for a field of a record. A field that is missing, or is no
array, has none. -/
def itemsUnder (names : List String) (value : Json) (name : String) : List Json :=
  ((value.under? names name).bind items?).getD []

/-- The entry under a key of the object that stands for a field of a record. -/
def entryUnder? (names : List String) (value : Json) (name key : String) : Option Json :=
  (value.under? names name).bind (field? key)

namespace Fields

variable {fields : Fields} {names : List String} {value : Json}

theorem elements_eq {α : Type} [Payload α]
    (h : ∀ name, fields.lookup name = value.under? names name) (name : String) :
    (fields.elements name : List α) = (value.itemsUnder names name).filterMap Payload.ofJson? := by
  unfold elements itemsUnder
  rw [h]

theorem texts_eq (h : ∀ name, fields.lookup name = value.under? names name) (name : String) :
    fields.texts name =
      (value.itemsUnder names name).map fun item => item.cellText?.getD "" := by
  unfold texts itemsUnder
  rw [h]
  cases value.under? names name <;> rfl

end Fields

/-! ## Entries by key -/

/-- Under distinct keys the value of a key may be decoded after it was found as well as before. -/
theorem lookup_filterMap {α β : Type} {entries : List (String × α)}
    (h : (entries.map Prod.fst).Nodup) (decode? : α → Option β) (key : String) :
    (entries.filterMap fun entry => (decode? entry.2).map (entry.1, ·)).lookup key =
      (entries.lookup key).bind decode? := by
  induction entries with
  | nil => rfl
  | cons entry later ih =>
      obtain ⟨other, value⟩ := entry
      obtain ⟨hother, hlater⟩ := List.nodup_cons.mp h
      rw [List.filterMap_cons, List.lookup_cons]
      by_cases hkey : key = other
      · subst hkey
        cases hvalue : decode? value with
        | none =>
            -- No later entry has the key, so nothing is found in the place of the one left out.
            simp [ih hlater, lookup_of_not_mem_keys hother, hvalue]
        | some decoded => simp [hvalue]
      · rw [beq_false_of_ne hkey]
        cases decode? value with
        | none => exact ih hlater
        | some decoded => simp [ih hlater, List.lookup_cons, beq_false_of_ne hkey]

/-! ## What stands in a record is canonical -/

/-- What holds of all that the readers of the fields give holds of all items. -/
theorem forall_of_positionsFrom? {P : Json → Prop} {readers : List (Reader Json)}
    (hreaders : ∀ read? ∈ readers, ∀ {cs rest item}, read? cs = some (item, rest) → P item)
    {cs rest : List Char} {items : List Json}
    (h : positionsFrom? readers cs = some (items, rest)) : ∀ item ∈ items, P item := by
  induction readers generalizing cs items with
  | nil => cases h
  | cons read? later ih =>
      obtain ⟨hread, hlater⟩ := List.forall_mem_cons.mp hreaders
      rw [positionsFrom?] at h
      obtain ⟨⟨item, middle⟩, hitem, h⟩ := Option.bind_eq_some_iff.mp h
      dsimp only at h
      split at h
      · obtain ⟨⟨items, rest⟩, hitems, h⟩ := Option.bind_eq_some_iff.mp h
        cases h
        exact List.forall_mem_cons.mpr ⟨hread hitem, ih hlater hitems⟩
      · cases h
        exact List.forall_mem_singleton.mpr (hread hitem)
      · cases h

theorem forall_of_knownMember? {P : Json → Prop} {readers : List (String × Reader Json)}
    (hreaders : ∀ reader ∈ readers, ∀ {cs rest value}, reader.2 cs = some (value, rest) → P value)
    {cs rest : List Char} {known : Option (String × Json)}
    (h : knownMember? readers cs = some (known, rest)) : ∀ field ∈ known, P field.2 := by
  obtain ⟨⟨key, middle⟩, -, h⟩ := Option.bind_eq_some_iff.mp h
  dsimp only at h
  split at h
  · next read? hread =>
      obtain ⟨⟨value, rest⟩, hvalue, h⟩ := Option.bind_eq_some_iff.mp h
      cases h
      obtain ⟨before, after, rfl, -⟩ := List.lookup_eq_some_iff.mp hread
      rintro field ⟨⟩
      exact hreaders (key, read?) (by simp) hvalue
  · obtain ⟨rest, -, h⟩ := Option.bind_eq_some_iff.mp h
    cases h
    rintro field ⟨⟩

theorem canonical_of_recordForm {names : List String} {depth : Nat} {cs rest : List Char}
    {value : Json}
    (h : recordForm (names.map fun name => (name, anyForm)) depth cs = some (value, rest))
    {order : List String} {name : String} {part : Json}
    (hpart : value.under? order name = some part) : part.canonical = part := by
  unfold recordForm at h
  split at h
  · next deeper _ =>
      obtain ⟨⟨items, rest⟩, hitems, h⟩ := Option.map_eq_some_iff.mp h
      cases h
      have hall : ∀ item ∈ items, item.canonical = item := by
        unfold positions? at hitems
        split at hitems
        · cases hitems
          exact List.forall_mem_nil _
        · refine forall_of_positionsFrom? (fun read? hread => ?_) hitems
          obtain ⟨field, hfield, rfl⟩ := List.mem_map.mp hread
          obtain ⟨name, -, rfl⟩ := List.mem_map.mp hfield
          exact canonical_of_value?
      exact hall part (List.of_mem_zip (Fields.mem_of_lookup hpart)).2
  · next deeper _ =>
      obtain ⟨⟨members, rest⟩, hmembers, h⟩ := Option.bind_eq_some_iff.mp h
      dsimp only at h
      split at h
      · cases h
        have hall := (readsParts_members _).forall_of_parts?
          (forall_of_knownMember? (P := fun value => value.canonical = value)
            fun reader hreader => by
              obtain ⟨field, hfield, rfl⟩ := List.mem_map.mp hreader
              obtain ⟨name, -, rfl⟩ := List.mem_map.mp hfield
              exact canonical_of_value?) hmembers
        have hmem := Fields.mem_of_lookup hpart
        obtain ⟨member, hmember, hfield⟩ := List.mem_filterMap.mp hmem
        exact hall member hmember (name, part) hfield
      · cases h
  · cases h

theorem increasing_of_canonical {fields : Fields}
    (h : (Json.object fields).canonical = .object fields) : fields.Increasing := by
  rw [canonical_object, Json.object.injEq] at h
  exact h ▸ Fields.increasing_sorted _

end Json

/-- Whatever stands in a record that a fetch delivers is canonical. -/
theorem Exchange.canonical_under? {α : Type} {names : List String} {build : Fields → α}
    {exchange : Exchange} {value : Json}
    (h : @Exchange.value? (Option α) (@Payload.instOption α (.record names build)) exchange =
      some value) {name : String} {part : Json} (hpart : value.under? names name = some part) :
    part.canonical = part := by
  unfold Exchange.value? at h
  split at h
  · cases h
  · split at h
    · obtain ⟨hvalue, -⟩ := Option.filter_eq_some_iff.mp h
      obtain ⟨rest, hread, -⟩ := Json.whole?_eq_some_iff.mp hvalue
      unfold Payload.form Payload.instOption Json.optionalForm at hread
      dsimp only at hread
      split at hread
      · obtain ⟨_, -, hnull⟩ := Option.map_eq_some_iff.mp hread
        cases hnull
        cases hpart
      · exact Json.canonical_of_recordForm hread hpart
    · cases h

end MeshConsole
