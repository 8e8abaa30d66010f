import MeshConsole.Node.Fetch
import MeshConsole.Proofs.Payload.Lenient

/-!
# Counting records

How many records a node delivers can be said of the value in the body of its answer, without the
payload that is decoded from it: the records are the items of a field that decode.

    exchange ──value?──▶ value ──under?──▶ items ──ofJson?──▶ records
        │                  │
        └──json──▶ payload ┴──ofFields──▶ list of the same length
-/

namespace MeshConsole

open Json

/-! ## Values -/

/-- How many of the items of a field are records of the given type. The field stands in a record
with the given names. -/
def Json.recordCount (β : Type) [Payload β] (names : List String) (name : String) (value : Json) :
    Nat :=
  (((value.under? names name).bind items?).getD []).countP fun item =>
    (Payload.ofJson? item : Option β).isSome

/-- The records among the items of a field are those that decode. -/
theorem Json.Fields.length_elements (β : Type) [Payload β] {fields : Fields} {names : List String}
    {value : Json} (h : ∀ name, fields.lookup name = value.under? names name) (name : String) :
    (fields.elements name : List β).length = value.recordCount β names name := by
  unfold Fields.elements recordCount
  rw [List.length_filterMap_eq_countP, h]

/-- A payload that is a record, or null in its place, is made of the fields of its value. -/
theorem Payload.exists_fields {α : Type} {names : List String} {build : Fields → α} {value : Json}
    {found : Option α}
    (h : (@instOption α (.record names build)).ofJson? value = some found) :
    ∃ fields, found.getD (build []) = build fields ∧
      ∀ name, fields.lookup name = value.under? names name := by
  cases value with
  | null =>
      obtain rfl := Option.some.inj h
      exact ⟨[], rfl, fun _ => rfl⟩
  | _ =>
      obtain ⟨record, hrecord, rfl⟩ := Option.map_eq_some_iff.mp h
      obtain ⟨fields, hfields, rfl⟩ := Option.map_eq_some_iff.mp hrecord
      exact ⟨fields, rfl, lookup_of_recordFields? hfields⟩

/-! ## Exchanges -/

namespace Exchange

variable (α : Type) [Payload α]

/-- The value that a fetch delivers, if it delivers a payload. -/
def value? : Exchange → Option Json
  | .error _ => none
  | .ok answer =>
    if answer.status.isSuccess then
      (whole? (Payload.form α depthLimit) answer.body).filter fun value =>
        (Payload.ofJson? value : Option α).isSome
    else none

/-- How many records of a type a fetch delivers in a field: none if it fails. -/
def recordCount (β : Type) [Payload β] (names : List String) (name : String)
    (exchange : Exchange) : Nat :=
  (exchange.value? α).elim 0 (Json.recordCount β names name)

/-- A fetch fails, and delivers no value, or its payload is what its value is decoded to. -/
theorem json_value?_cases (exchange : Exchange) :
    (∃ failure, exchange.json α = .error failure ∧ exchange.value? α = none) ∨
      ∃ found value, exchange.json α = .ok found ∧ exchange.value? α = some value ∧
        Payload.ofJson? value = some found := by
  cases exchange with
  | error fault => exact Or.inl ⟨_, rfl, rfl⟩
  | ok answer =>
      unfold json value?
      dsimp only
      cases answer.status.isSuccess with
      | false => exact Or.inl ⟨_, rfl, rfl⟩
      | true =>
          rw [if_pos rfl, if_pos rfl, Payload.read?]
          cases whole? (Payload.form α depthLimit) answer.body with
          | none => exact Or.inl ⟨_, rfl, rfl⟩
          | some value =>
              rw [Option.bind_some, Option.filter_some]
              cases h : (Payload.ofJson? value : Option α) with
              | none => exact Or.inl ⟨_, rfl, rfl⟩
              | some found => exact Or.inr ⟨found, value, rfl, rfl, h⟩

/-- A fetch that delivers a value delivers the payload that the value is decoded to. -/
theorem exists_json_of_value? {α : Type} [Payload α] {exchange : Exchange} {value : Json}
    (h : exchange.value? α = some value) :
    ∃ found, exchange.json α = .ok found ∧ Payload.ofJson? value = some found := by
  obtain ⟨failure, -, hnone⟩ | ⟨found, delivered, hjson, hsome, hfound⟩ :=
    json_value?_cases α exchange
  · rw [h] at hnone
    cases hnone
  · obtain rfl := Option.some.inj (h.symm.trans hsome)
    exact ⟨found, hjson, hfound⟩

end Exchange

end MeshConsole
