import MeshConsole.Text.Order

/-!
# JSON values

The values that the node's answers consist of. A number keeps the kind in which it was read: a
whole number that fits 64 bits, or a floating-point number. The fields of an object that was read
are in increasing order of their keys, each key once; an object that is only written keeps the
order in which its fields are listed.
-/

namespace MeshConsole

/-- A whole number that fits a signed or an unsigned word of 64 bits. -/
structure Json.Whole where
  val : Int
  fits : -0x8000000000000000 ≤ val ∧ val < 0x10000000000000000
deriving DecidableEq, Repr

/-- A number, as read. -/
inductive Json.Number where
  | whole (n : Json.Whole)
  | float (x : Float)
deriving DecidableEq, Repr

/-- A JSON value. -/
inductive Json where
  | null
  | bool (value : Bool)
  | number (value : Json.Number)
  | text (value : String)
  | array (items : List Json)
  | object (fields : List (String × Json))
deriving Inhabited

namespace Json

/-- The fields of an object in the order in which they stand. -/
abbrev Fields := List (String × Json)

/-- A natural number below `2 ^ 64` as a value. -/
def Whole.ofNat? (n : Nat) : Option Whole :=
  if h : n < 0x10000000000000000 then some ⟨n, by omega⟩ else none

/-- Minus a natural number of at most `2 ^ 63` as a value. -/
def Whole.negOfNat? (n : Nat) : Option Whole :=
  if h : n ≤ 0x8000000000000000 then some ⟨-n, by omega⟩ else none

/-! ### Fields -/

/-- Puts a field into its place by key. A field of the same key is replaced. -/
def Fields.insert (key : String) (value : Json) : Fields → Fields
  | [] => [(key, value)]
  | (other, old) :: later =>
    match Text.compareStrings key other with
    | .lt => (key, value) :: (other, old) :: later
    | .eq => (key, value) :: later
    | .gt => (other, old) :: Fields.insert key value later

/-- The fields in the order of their keys. Of several fields of one key the last one counts. -/
def Fields.sorted (fields : Fields) : Fields :=
  fields.foldl (fun seen field => Fields.insert field.1 field.2 seen) []

/-- The value of a field of an object; none for a value of any other kind. -/
def field? (key : String) : Json → Option Json
  | .object fields => fields.lookup key
  | _ => none

/-- The items of an array; none for a value of any other kind. -/
def items? : Json → Option (List Json)
  | .array items => some items
  | _ => none

/-- A value that is not null. -/
def present? : Json → Option Json
  | .null => none
  | value => some value

/-! ### Equality -/

mutual

/-- Whether two values are the same. -/
def isSame : Json → Json → Bool
  | .null, .null => true
  | .bool a, .bool b => a == b
  | .number a, .number b => a == b
  | .text a, .text b => a == b
  | .array as, .array bs => areSame as bs
  | .object as, .object bs => haveSameFields as bs
  | _, _ => false

/-- Whether two lists of items are the same. -/
def areSame : List Json → List Json → Bool
  | [], [] => true
  | a :: as, b :: bs => isSame a b && areSame as bs
  | _, _ => false

/-- Whether two lists of fields are the same. -/
def haveSameFields : List (String × Json) → List (String × Json) → Bool
  | [], [] => true
  | (key, a) :: as, (other, b) :: bs => key == other && isSame a b && haveSameFields as bs
  | _, _ => false

end

mutual

theorem isSame_iff : ∀ a b : Json, isSame a b = true ↔ a = b
  | .null, b => by cases b <;> simp [isSame]
  | .bool a, b => by cases b <;> simp [isSame]
  | .number a, b => by cases b <;> simp [isSame]
  | .text a, b => by cases b <;> simp [isSame]
  | .array as, b => by cases b <;> simp [isSame, areSame_iff as]
  | .object as, b => by cases b <;> simp [isSame, haveSameFields_iff as]

theorem areSame_iff : ∀ as bs : List Json, areSame as bs = true ↔ as = bs
  | [], bs => by cases bs <;> simp [areSame]
  | a :: as, bs => by cases bs <;> simp [areSame, isSame_iff a, areSame_iff as]

theorem haveSameFields_iff :
    ∀ as bs : List (String × Json), haveSameFields as bs = true ↔ as = bs
  | [], bs => by cases bs <;> simp [haveSameFields]
  | (key, a) :: as, bs => by
    cases bs <;> simp [haveSameFields, isSame_iff a, haveSameFields_iff as, Prod.ext_iff]

end

instance : DecidableEq Json := fun a b => decidable_of_iff (isSame a b = true) (isSame_iff a b)

@[simp] theorem field?_object (key : String) (fields : Fields) :
    field? key (.object fields) = fields.lookup key := rfl

end Json

end MeshConsole
