import MeshConsole.Proofs.Json.RecordText
import Mathlib.Data.List.Nodup

/-!
# Values that were read

Not every value comes from a text. What the reader gives has two properties that a value which is
only written need not have:

* the fields of every object stand in increasing order of their keys, each key once, so that the
  value is the canonical one of all values with the same fields (`canonical_of_value?`);
* its brackets are nested no deeper than the reader was allowed to go (`isNested_of_value?`).

The parts of a value, items of items and fields of fields included, are the values that occur in
it, and they inherit both properties.
-/

namespace MeshConsole

open Std

namespace Json

/-! ## Induction -/

/-- What holds of a value if it holds of all its items or of the values of all its fields, holds of
every value. -/
theorem induction {motive : Json → Prop} (null : motive .null)
    (bool : ∀ b, motive (.bool b)) (number : ∀ n, motive (.number n))
    (text : ∀ s, motive (.text s))
    (array : ∀ items, (∀ item ∈ items, motive item) → motive (.array items))
    (object : ∀ fields, (∀ field ∈ fields, motive field.2) → motive (.object fields)) :
    ∀ value, motive value
  | .null => null
  | .bool b => bool b
  | .number n => number n
  | .text s => text s
  | .array items =>
    array items fun item _ => induction null bool number text array object item
  | .object fields =>
    object fields fun field hfield => by
      have hsmaller := List.sizeOf_lt_of_mem hfield
      have hvalue : sizeOf field.2 < sizeOf field := by
        obtain ⟨key, value⟩ := field
        simp only [Prod.mk.sizeOf_spec]
        omega
      exact induction null bool number text array object field.2

/-! ## Parts of a value -/

/-- A value is another value, or stands somewhere inside it. -/
inductive Occurs (part : Json) : Json → Prop
  | self : Occurs part part
  | item {items : List Json} {item : Json} :
      item ∈ items → Occurs part item → Occurs part (.array items)
  | field {fields : Fields} {field : String × Json} :
      field ∈ fields → Occurs part field.2 → Occurs part (.object fields)

/-- All numbers in a value are whole numbers that fit 64 bits. -/
def HasWholeNumbers (value : Json) : Prop := ∀ x, ¬ Occurs (.number (.float x)) value

theorem Occurs.trans {a b c : Json} (hab : Occurs a b) (hbc : Occurs b c) : Occurs a c := by
  induction hbc with
  | self => exact hab
  | item hitem _ ih => exact .item hitem ih
  | field hfield _ ih => exact .field hfield ih

theorem HasWholeNumbers.of_occurs {part value : Json} (h : value.HasWholeNumbers)
    (hpart : Occurs part value) : part.HasWholeNumbers :=
  fun x hx => h x (hx.trans hpart)

@[simp] theorem hasWholeNumbers_null : HasWholeNumbers .null := by rintro x ⟨⟩

@[simp] theorem hasWholeNumbers_bool (b : Bool) : HasWholeNumbers (.bool b) := by rintro x ⟨⟩

@[simp] theorem hasWholeNumbers_text (s : String) : HasWholeNumbers (.text s) := by rintro x ⟨⟩

@[simp] theorem hasWholeNumbers_number {n : Number} :
    HasWholeNumbers (.number n) ↔ ∃ whole, n = .whole whole := by
  constructor
  · intro h
    cases n with
    | whole whole => exact ⟨whole, rfl⟩
    | float x => exact absurd .self (h x)
  · rintro ⟨whole, rfl⟩ x hx
    cases hx

@[simp] theorem hasWholeNumbers_array {items : List Json} :
    HasWholeNumbers (.array items) ↔ ∀ item ∈ items, item.HasWholeNumbers := by
  constructor
  · exact fun h item hitem => h.of_occurs (.item hitem .self)
  · rintro h x (_ | ⟨hitem, hx⟩)
    exact h _ hitem x hx

@[simp] theorem hasWholeNumbers_object {fields : Fields} :
    HasWholeNumbers (.object fields) ↔ ∀ field ∈ fields, field.2.HasWholeNumbers := by
  constructor
  · exact fun h field hfield => h.of_occurs (.field hfield .self)
  · rintro h x (_ | _ | ⟨hfield, hx⟩)
    exact h _ hfield x hx

/-- The brackets of a value are nested at most so many levels deep. -/
def IsNested : Nat → Json → Prop
  | 0, .array _ | 0, .object _ => False
  | depth + 1, .array items => ∀ item ∈ items, IsNested depth item
  | depth + 1, .object fields => ∀ field ∈ fields, IsNested depth field.2
  | _, _ => True

theorem IsNested.mono {shallow deep : Nat} (hle : shallow ≤ deep) {value : Json}
    (h : IsNested shallow value) : IsNested deep value := by
  induction shallow generalizing deep value with
  | zero =>
      cases value with
      | array items => cases h
      | object fields => cases h
      | _ => cases deep <;> trivial
  | succ shallow ih =>
      obtain ⟨deeper, rfl⟩ : ∃ deeper, deep = deeper + 1 := ⟨deep - 1, by omega⟩
      cases value with
      | array items => exact fun item hitem => ih (by omega) (h item hitem)
      | object fields => exact fun field hfield => ih (by omega) (h field hfield)
      | _ => trivial

theorem IsNested.of_occurs {depth : Nat} {part value : Json} (h : IsNested depth value)
    (hpart : Occurs part value) : IsNested depth part := by
  induction hpart generalizing depth with
  | self => exact h
  | item hitem _ ih =>
      cases depth with
      | zero => cases h
      | succ depth => exact (ih (h _ hitem)).mono (Nat.le_succ depth)
  | field hfield _ ih =>
      cases depth with
      | zero => cases h
      | succ depth => exact (ih (h _ hfield)).mono (Nat.le_succ depth)

/-! ## Fields in order -/

namespace Fields

/-- The keys increase, so that none is repeated. -/
def Increasing (fields : Fields) : Prop :=
  fields.Pairwise fun a b => Text.compareStrings a.1 b.1 = .lt

theorem Increasing.keys_nodup {fields : Fields} (h : fields.Increasing) :
    (fields.map Prod.fst).Nodup := by
  refine List.pairwise_map.mpr (h.imp fun {a b} hlt heq => ?_)
  rw [heq, Text.compareStrings_eq_iff.mpr rfl] at hlt
  cases hlt

theorem mem_insert {key : String} {value : Json} {fields : Fields} {field : String × Json}
    (h : field ∈ fields.insert key value) : field = (key, value) ∨ field ∈ fields := by
  induction fields with
  | nil => exact Or.inl (List.mem_singleton.mp h)
  | cons first later ih =>
      unfold insert at h
      split at h
      · exact List.mem_cons.mp h
      · exact (List.mem_cons.mp h).imp_right (List.mem_cons_of_mem _)
      · rcases List.mem_cons.mp h with rfl | hlater
        · exact Or.inr List.mem_cons_self
        · exact (ih hlater).imp_right (List.mem_cons_of_mem _)

theorem increasing_insert {fields : Fields} (h : fields.Increasing) (key : String)
    (value : Json) : (fields.insert key value).Increasing := by
  induction fields with
  | nil => exact List.pairwise_singleton _ _
  | cons first later ih =>
      obtain ⟨hfirst, hlater⟩ := List.pairwise_cons.mp h
      unfold Fields.insert
      split
      · next hlt =>
          refine List.pairwise_cons.mpr ⟨fun field hfield => ?_, h⟩
          rcases List.mem_cons.mp hfield with rfl | hfield
          · exact hlt
          · exact TransCmp.lt_trans hlt (hfirst field hfield)
      · next heq =>
          rw [Text.compareStrings_eq_iff.mp heq]
          exact List.pairwise_cons.mpr ⟨hfirst, hlater⟩
      · next hgt =>
          refine List.pairwise_cons.mpr ⟨fun field hfield => ?_, ih hlater⟩
          rcases mem_insert hfield with rfl | hfield
          · exact OrientedCmp.lt_of_gt hgt
          · exact hfirst field hfield

/-- A field whose key is the greatest is put at the end. -/
theorem insert_of_forall_lt {key : String} (value : Json) {fields : Fields}
    (h : ∀ field ∈ fields, Text.compareStrings field.1 key = .lt) :
    fields.insert key value = fields ++ [(key, value)] := by
  induction fields with
  | nil => rfl
  | cons first later ih =>
      have hgt : Text.compareStrings key first.1 = .gt :=
        OrientedCmp.gt_of_lt (h first List.mem_cons_self)
      rw [insert, hgt, List.cons_append]
      dsimp only
      rw [ih fun field hfield => h field (List.mem_cons_of_mem _ hfield)]

/-- What holds of the first fields and is kept by an insertion, holds of the sorted ones. -/
theorem sorted_induction {motive : Fields → Prop} {fields : Fields} (nil : motive [])
    (insert : ∀ seen, motive seen → ∀ field ∈ fields,
      motive (Fields.insert field.1 field.2 seen)) : motive fields.sorted := by
  unfold sorted
  exact List.foldlRecOn fields _ nil insert

theorem increasing_sorted (fields : Fields) : fields.sorted.Increasing :=
  sorted_induction List.Pairwise.nil fun _ h field _ => increasing_insert h field.1 field.2

theorem mem_of_mem_sorted {fields : Fields} {field : String × Json}
    (h : field ∈ fields.sorted) : field ∈ fields := by
  have hall : ∀ field ∈ fields.sorted, field ∈ fields := by
    apply sorted_induction (motive := fun seen => ∀ field ∈ seen, field ∈ fields)
    · simp
    · intro seen hseen field hfield other hother
      rcases mem_insert hother with rfl | hother
      · exact hfield
      · exact hseen other hother
  exact hall field h

/-- Fields in order are not moved. -/
theorem Increasing.sorted_eq {fields : Fields} (h : fields.Increasing) :
    fields.sorted = fields := by
  -- The fields that were seen stand in front of those that are still to come.
  have hfold (seen later : Fields) (h : (seen ++ later).Increasing) :
      later.foldl (fun seen field => insert field.1 field.2 seen) seen = seen ++ later := by
    induction later generalizing seen with
    | nil => exact (List.append_nil seen).symm
    | cons field later ih =>
        have hinsert : seen.insert field.1 field.2 = seen ++ [field] :=
          insert_of_forall_lt field.2 fun other hother =>
            (List.pairwise_append.mp h).2.2 other hother field List.mem_cons_self
        rw [List.foldl_cons, hinsert, ih _ (by rwa [List.append_cons] at h), ← List.append_cons]
  exact hfold [] fields h

/-- Distinct keys are found in their new places with the same values. -/
theorem lookup_sorted_of_nodup {fields : Fields} (h : (fields.map Prod.fst).Nodup)
    (name : String) : fields.sorted.lookup name = fields.lookup name := by
  have hknown : fields.known (name :: fields.map Prod.fst) = fields :=
    List.filter_eq_self.mpr fun field hfield => by
      simpa using Or.inr ⟨field.2, hfield⟩
  have hlookup : (fields.known (name :: fields.map Prod.fst)).lookup name =
      fields.sorted.lookup name := lookup_known (by rwa [hknown]) List.mem_cons_self
  rw [← hlookup, hknown]

theorem mem_of_lookup {fields : Fields} {key : String} {value : Json}
    (h : fields.lookup key = some value) : (key, value) ∈ fields := by
  obtain ⟨before, after, rfl, -⟩ := List.lookup_eq_some_iff.mp h
  exact List.mem_append_right before List.mem_cons_self

/-- Under a key that is not repeated the only field of the key is found. -/
theorem lookup_of_nodup {fields : Fields} (h : (fields.map Prod.fst).Nodup)
    {field : String × Json} (hfield : field ∈ fields) :
    fields.lookup field.1 = some field.2 := by
  induction fields with
  | nil => cases hfield
  | cons first later ih =>
      obtain ⟨hfirst, hlater⟩ := List.nodup_cons.mp h
      rw [lookup_cons]
      rcases List.mem_cons.mp hfield with rfl | hfield
      · exact if_pos rfl
      · have hne : field.1 ≠ first.1 := fun heq => hfirst (heq ▸ List.mem_map_of_mem hfield)
        rw [if_neg hne]
        exact ih hlater hfield

theorem Increasing.lookup_eq {fields : Fields} (h : fields.Increasing) {field : String × Json}
    (hfield : field ∈ fields) : fields.lookup field.1 = some field.2 :=
  lookup_of_nodup h.keys_nodup hfield

/-- Fields with distinct keys are only moved. -/
theorem perm_sorted_of_nodup {fields : Fields} (h : (fields.map Prod.fst).Nodup) :
    fields.sorted.Perm fields := by
  have hsorted := (increasing_sorted fields).keys_nodup
  refine (List.perm_ext_iff_of_nodup hsorted.of_map h.of_map).mpr fun field =>
    ⟨mem_of_mem_sorted, fun hfield => mem_of_lookup ?_⟩
  rw [lookup_sorted_of_nodup h, lookup_of_nodup h hfield]

end Fields

/-! ## Canonical values -/

mutual

/-- The value with the fields of all its objects in the order of their keys. -/
def canonical : Json → Json
  | .array items => .array (canonicalItems items)
  | .object fields => .object (Fields.sorted (canonicalFields fields))
  | value => value

/-- The canonical values of items. -/
def canonicalItems : List Json → List Json
  | [] => []
  | item :: items => canonical item :: canonicalItems items

/-- Fields, still in their places, with canonical values. -/
def canonicalFields : List (String × Json) → List (String × Json)
  | [] => []
  | (key, value) :: fields => (key, canonical value) :: canonicalFields fields

end

/-- A field with a canonical value. -/
def canonicalField (field : String × Json) : String × Json := (field.1, field.2.canonical)

theorem canonicalItems_eq_map (items : List Json) : canonicalItems items = items.map canonical := by
  induction items with
  | nil => rfl
  | cons item items ih => rw [canonicalItems, ih, List.map_cons]

theorem canonicalFields_eq_map (fields : Fields) :
    canonicalFields fields = fields.map canonicalField := by
  induction fields with
  | nil => rfl
  | cons field fields ih =>
      rw [canonicalFields, ih, List.map_cons]
      rfl

theorem canonical_array (items : List Json) :
    canonical (.array items) = .array (items.map canonical) := by
  rw [canonical, canonicalItems_eq_map]

theorem canonical_object (fields : Fields) :
    canonical (.object fields) = .object (Fields.sorted (fields.map canonicalField)) := by
  rw [canonical, canonicalFields_eq_map]

theorem map_canonicalField {fields : Fields} (h : ∀ field ∈ fields, field.2.canonical = field.2) :
    fields.map canonicalField = fields := by
  rw [List.map_congr_left fun field hfield => ?_, List.map_id]
  rw [canonicalField, h field hfield]
  rfl

theorem canonical_canonical (value : Json) : value.canonical.canonical = value.canonical := by
  induction value using Json.induction with
  | array items ih =>
      rw [canonical_array, canonical_array, List.map_map]
      exact congrArg _ (List.map_congr_left ih)
  | object fields ih =>
      have hfields : ∀ field ∈ Fields.sorted (fields.map canonicalField),
          field.2.canonical = field.2 := by
        intro field hfield
        obtain ⟨original, horiginal, rfl⟩ := List.mem_map.mp (Fields.mem_of_mem_sorted hfield)
        exact ih original horiginal
      rw [canonical_object, canonical_object, map_canonicalField hfields,
        (Fields.increasing_sorted _).sorted_eq]
  | _ => rfl

/-- The parts of a canonical value are canonical. -/
theorem canonical_of_occurs {part value : Json} (h : value.canonical = value)
    (hpart : Occurs part value) : part.canonical = part := by
  induction hpart with
  | self => exact h
  | @item items item hitem _ ih =>
      rw [canonical_array, Json.array.injEq] at h
      rw [← h] at hitem
      obtain ⟨original, -, rfl⟩ := List.mem_map.mp hitem
      exact ih (canonical_canonical original)
  | @field fields field hfield _ ih =>
      rw [canonical_object, Json.object.injEq] at h
      rw [← h] at hfield
      obtain ⟨original, -, rfl⟩ := List.mem_map.mp (Fields.mem_of_mem_sorted hfield)
      exact ih (canonical_canonical original.2)

/-! ## Parts between commas -/

/-- The items of an array and the members of an object are read in the same way: parts with a comma
between any two of them, up to a closing bracket. -/
structure ReadsParts {α : Type} (closing : Char) (part? : Reader α)
    (partsFrom? : Nat → Reader (List α)) (parts? : Reader (List α)) : Prop where
  isBracket : closing = ']' ∨ closing = '\x7d'
  zero : ∀ cs, partsFrom? 0 cs = none
  succ : ∀ {steps : Nat} {cs rest : List Char} {parts : List α},
    partsFrom? (steps + 1) cs = some (parts, rest) ↔
      ∃ part middle, part? cs = some (part, middle) ∧
        ((∃ behind later, skipSpace middle = ',' :: behind ∧
            partsFrom? steps behind = some (later, rest) ∧ part :: later = parts) ∨
          skipSpace middle = closing :: rest ∧ [part] = parts)
  closed : ∀ {cs rest : List Char}, skipSpace cs = closing :: rest → parts? cs = some ([], rest)
  opened : ∀ {cs : List Char}, (∀ rest, skipSpace cs ≠ closing :: rest) →
    parts? cs = partsFrom? cs.length cs

theorem readsParts_items {α : Type} (item? : Reader α) :
    ReadsParts ']' item? (itemsFrom? item?) (arrayItems? item?) where
  isBracket := Or.inl rfl
  zero _ := rfl
  succ := itemsFrom?_succ_eq_some_iff
  closed h := by
    rw [arrayItems?, h]
    rfl
  opened h := by
    unfold arrayItems?
    split
    · next hclose => exact absurd hclose (h _)
    · rfl

theorem readsParts_members {α : Type} (member? : Reader α) :
    ReadsParts '\x7d' member? (membersFrom? member?) (objectMembers? member?) where
  isBracket := Or.inr rfl
  zero _ := rfl
  succ := membersFrom?_succ_eq_some_iff
  closed h := by
    rw [objectMembers?, h]
    rfl
  opened h := by
    unfold objectMembers?
    split
    · next hclose => exact absurd hclose (h _)
    · rfl

namespace ReadsParts

variable {α : Type} {closing : Char} {part? : Reader α} {partsFrom? : Nat → Reader (List α)}
  {parts? : Reader (List α)} {P : α → Prop} {cs rest : List Char} {parts : List α}

theorem forall_of_partsFrom? (hreads : ReadsParts closing part? partsFrom? parts?)
    (h : ∀ {cs rest : List Char} {part : α}, part? cs = some (part, rest) → P part) {steps : Nat}
    (hparts : partsFrom? steps cs = some (parts, rest)) : ∀ part ∈ parts, P part := by
  induction steps generalizing cs parts with
  | zero =>
      rw [hreads.zero] at hparts
      cases hparts
  | succ steps ih =>
      obtain ⟨part, middle, hpart, ⟨behind, later, -, hlater, rfl⟩ | ⟨-, rfl⟩⟩ :=
        hreads.succ.mp hparts
      · exact List.forall_mem_cons.mpr ⟨h hpart, ih hlater⟩
      · exact List.forall_mem_singleton.mpr (h hpart)

/-- What holds of every part that is read holds of all parts. -/
theorem forall_of_parts? (hreads : ReadsParts closing part? partsFrom? parts?)
    (h : ∀ {cs rest : List Char} {part : α}, part? cs = some (part, rest) → P part)
    (hparts : parts? cs = some (parts, rest)) : ∀ part ∈ parts, P part := by
  by_cases hclose : ∃ behind, skipSpace cs = closing :: behind
  · obtain ⟨behind, hclose⟩ := hclose
    rw [hreads.closed hclose] at hparts
    cases hparts
    exact List.forall_mem_nil P
  · rw [hreads.opened fun behind hclosed => hclose ⟨behind, hclosed⟩] at hparts
    exact hreads.forall_of_partsFrom? h hparts

end ReadsParts

/-! ## What the reader gives -/

/-- What holds of the values without parts, of the arrays of items and of the sorted objects of
members of which it holds one level further in, holds of every value that is read. -/
theorem value?_induction {motive : Nat → Json → Prop} (null : ∀ depth, motive depth .null)
    (scalar : ∀ depth value, value.IsScalar → motive depth value)
    (array : ∀ depth items, (∀ item ∈ items, motive depth item) →
      motive (depth + 1) (.array items))
    (object : ∀ depth (members : Fields), (∀ member ∈ members, motive depth member.2) →
      motive (depth + 1) (.object members.sorted))
    {depth : Nat} {cs rest : List Char} {value : Json}
    (h : value? depth cs = some (value, rest)) : motive depth value := by
  induction depth using Nat.strongRecOn generalizing cs rest value with
  | ind depth ih =>
      cases readsAs_of_value? h with
      | null _ _ => exact null depth
      | scalar hscalar _ _ _ => exact scalar depth _ hscalar
      | @array deeper behind items hdepth _ hitems =>
          subst hdepth
          exact array deeper items
            ((readsParts_items _).forall_of_parts? (ih deeper (by omega)) hitems)
      | @object deeper behind members hdepth _ hmembers =>
          subst hdepth
          refine object deeper members
            ((readsParts_members _).forall_of_parts? (fun hmember => ?_) hmembers)
          simp only [member?, Option.bind_eq_bind, Option.bind_eq_some_iff, Prod.exists] at hmember
          obtain ⟨key, behind, -, value, rest, hvalue, hpair⟩ := hmember
          cases hpair
          exact ih deeper (by omega) hvalue

variable {depth : Nat} {cs rest : List Char} {value : Json}

/-- What is read is canonical. -/
theorem canonical_of_value? (h : value? depth cs = some (value, rest)) :
    value.canonical = value := by
  refine value?_induction (motive := fun _ value => value.canonical = value)
    (fun _ => rfl) ?_ ?_ ?_ h
  · intro _ value hscalar
    cases value with
    | null | array | object => cases hscalar
    | _ => rfl
  · intro _ items hitems
    rw [canonical_array, List.map_congr_left hitems, List.map_id']
  · intro _ members hmembers
    have hsorted : ∀ field ∈ members.sorted, field.2.canonical = field.2 :=
      fun field hfield => hmembers field (Fields.mem_of_mem_sorted hfield)
    rw [canonical_object, map_canonicalField hsorted, (Fields.increasing_sorted _).sorted_eq]

/-- What is read is nested no deeper than the reader was allowed to go. -/
theorem isNested_of_value? (h : value? depth cs = some (value, rest)) :
    IsNested depth value := by
  refine value?_induction (motive := IsNested) ?_ ?_ ?_ ?_ h
  · intro depth
    cases depth <;> trivial
  · intro depth value hscalar
    cases value with
    | null | array | object => cases hscalar
    | _ => cases depth <;> trivial
  · intro depth items hitems
    exact hitems
  · intro depth members hmembers field hfield
    exact hmembers field (Fields.mem_of_mem_sorted hfield)

end Json

end MeshConsole
