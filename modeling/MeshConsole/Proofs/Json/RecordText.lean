import MeshConsole.Proofs.Json.Passing
import MeshConsole.Proofs.Text.Order

/-!
# Texts of records

A record and a value of any kind are read from a text by different readers. Where the text holds a
value, the two agree:

    text ──value?─────▶ object, array, other ──recordFields?──▶ fields
         ──recordForm──▶ object, array       ──recordFields?──▶ fields

An array is a record if it is not too long, an object if it repeats no name of the record, and no
other value is one (`Holds.whole?_recordForm`). Of the fields of an object only those are kept that
the record knows, in the order in which they stand, and under each name there is the same value.
-/

namespace MeshConsole

/-! ## Fields -/

namespace Json

theorem lookup_of_not_mem_keys {α : Type} {entries : List (String × α)} {key : String}
    (h : key ∉ entries.map Prod.fst) : entries.lookup key = none := by
  rw [List.lookup_eq_none_iff]
  intro entry hentry
  rw [bne_iff_ne]
  rintro rfl
  exact h (List.mem_map_of_mem hentry)

namespace Fields

theorem lookup_cons (key : String) (value : Json) (later : Fields) (name : String) :
    List.lookup name ((key, value) :: later) =
      if name = key then some value else later.lookup name := by
  rw [List.lookup_cons]
  by_cases h : name = key
  · simp [h]
  · simp [h, beq_false_of_ne h]

theorem lookup_insert (key : String) (value : Json) (fields : Fields) (name : String) :
    (fields.insert key value).lookup name =
      if name = key then some value else fields.lookup name := by
  induction fields with
  | nil => exact lookup_cons key value [] name
  | cons field later ih =>
      obtain ⟨other, old⟩ := field
      unfold Fields.insert
      split
      · rw [lookup_cons]
      · next heq =>
          obtain rfl := Text.compareStrings_eq_iff.mp heq
          rw [lookup_cons, lookup_cons]
          split <;> rfl
      · next hgt =>
          have hne : key ≠ other := by
            intro heq
            rw [Text.compareStrings_eq_iff.mpr heq] at hgt
            cases hgt
          rw [lookup_cons, lookup_cons, ih]
          split <;> simp_all [Ne.symm]

/-- Of several fields of one key the last one is found. -/
theorem lookup_sorted (fields : Fields) (name : String) :
    fields.sorted.lookup name = fields.reverse.lookup name := by
  -- Fields are inserted from the left, each over those that were seen before it.
  have hfold (seen : Fields) :
      (fields.foldl (fun seen field => Fields.insert field.1 field.2 seen) seen).lookup name =
        (fields.reverse.lookup name).or (seen.lookup name) := by
    induction fields generalizing seen with
    | nil => rfl
    | cons field later ih =>
        rw [List.foldl_cons, ih, lookup_insert, List.reverse_cons, List.lookup_append,
          Option.or_assoc, lookup_cons]
        congr 1
        split <;> rfl
  have hsorted := hfold []
  rwa [List.lookup_nil, Option.or_none] at hsorted

/-- The fields of an object that a record knows. -/
def known (names : List String) (fields : Fields) : Fields :=
  fields.filter fun field => field.1 ∈ names

theorem lookup_known_eq_lookup (fields : Fields) {names : List String} {name : String}
    (hname : name ∈ names) : (fields.known names).lookup name = fields.lookup name := by
  induction fields with
  | nil => rfl
  | cons field later ih =>
      obtain ⟨key, value⟩ := field
      unfold known at ih ⊢
      rw [List.filter_cons, lookup_cons]
      split
      · rw [lookup_cons, ih]
      · next hkey =>
          rw [ih, if_neg]
          rintro rfl
          simp [hname] at hkey

/-- If none of the names is repeated, the first field of a name is also the last one. -/
theorem lookup_known {names : List String} {fields : Fields}
    (h : ((fields.known names).map Prod.fst).Nodup) {name : String} (hname : name ∈ names) :
    (fields.known names).lookup name = fields.sorted.lookup name := by
  rw [lookup_sorted, lookup_known_eq_lookup fields hname]
  induction fields with
  | nil => rfl
  | cons field later ih =>
      obtain ⟨key, value⟩ := field
      rw [List.reverse_cons, List.lookup_append, lookup_cons, lookup_cons]
      unfold known at h ih
      rw [List.filter_cons] at h
      by_cases hkey : name = key
      · subst hkey
        simp only [hname, decide_true, if_true, List.map_cons, List.nodup_cons] at h
        have hnone : later.reverse.lookup name = none := by
          rw [List.lookup_eq_none_iff]
          intro field hfield
          rw [bne_iff_ne]
          rintro rfl
          apply h.1
          apply List.mem_map_of_mem
          exact List.mem_filter.mpr ⟨List.mem_reverse.mp hfield, by simpa using hname⟩
        rw [hnone]
        simp
      · have hlater : ((List.filter (fun field => decide (field.1 ∈ names)) later).map
            Prod.fst).Nodup := by
          split at h
          · exact (List.nodup_cons.mp h).2
          · exact h
        rw [if_neg hkey, if_neg hkey, ih hlater]
        simp

end Fields

/-! ## Members that are known -/

section

variable {α β : Type} {item? : Reader α} {other? : Reader β} {read : α → β}

theorem membersFrom?_map
    (h : ∀ {cs rest : List Char} {member : α}, item? cs = some (member, rest) →
      other? cs = some (read member, rest))
    {steps : Nat} {cs rest : List Char} {members : List α}
    (hmembers : membersFrom? item? steps cs = some (members, rest)) :
    membersFrom? other? steps cs = some (members.map read, rest) := by
  induction steps generalizing cs members with
  | zero => cases hmembers
  | succ steps ih =>
      obtain ⟨member, middle, hmember, hrest⟩ := membersFrom?_succ_eq_some_iff.mp hmembers
      refine membersFrom?_succ_eq_some_iff.mpr ⟨read member, middle, h hmember, ?_⟩
      rcases hrest with ⟨behind, later, hcomma, hlater, rfl⟩ | ⟨hclose, rfl⟩
      · exact Or.inl ⟨behind, later.map read, hcomma, ih hlater, rfl⟩
      · exact Or.inr ⟨hclose, rfl⟩

theorem objectMembers?_map
    (h : ∀ {cs rest : List Char} {member : α}, item? cs = some (member, rest) →
      other? cs = some (read member, rest))
    {cs rest : List Char} {members : List α}
    (hmembers : objectMembers? item? cs = some (members, rest)) :
    objectMembers? other? cs = some (members.map read, rest) := by
  unfold objectMembers? at hmembers ⊢
  split at hmembers
  · cases hmembers
    rfl
  · exact membersFrom?_map h hmembers

end

theorem lookup_readers (names : List String) (read? : Reader Json) (key : String) :
    (names.map fun name => (name, read?)).lookup key =
      if key ∈ names then some read? else none := by
  induction names with
  | nil => rfl
  | cons name later ih =>
      rw [List.map_cons, List.lookup_cons, ih]
      by_cases h : key = name
      · simp [h]
      · simp [h, beq_false_of_ne h]

/-- A member is read if its key is a name, and passed over if not. -/
theorem knownMember?_of_member? {depth : Nat} (names : List String) {cs rest : List Char}
    {member : String × Json} (h : member? (value? depth) cs = some (member, rest)) :
    knownMember? (names.map fun name => (name, value? depth)) cs =
      some (if member.1 ∈ names then some member else none, rest) := by
  simp only [member?, Option.bind_eq_bind, Option.bind_eq_some_iff, Prod.exists] at h
  obtain ⟨key, middle, hkey, value, rest', hvalue, hpair⟩ := h
  cases hpair
  unfold knownMember?
  rw [hkey, Option.bind_eq_bind, Option.bind_some]
  dsimp only
  rw [lookup_readers]
  by_cases hname : key ∈ names
  · simp [hname, hvalue]
  · simp [hname, pass?_of_value? hvalue]

theorem filterMap_known (names : List String) (members : Fields) :
    (members.map fun member => if member.1 ∈ names then some member else none).filterMap id =
      members.known names := by
  rw [List.filterMap_map, Fields.known, ← List.filterMap_eq_filter]
  congr 1
  funext member
  simp [Option.guard]

/-! ## Items by position -/

theorem positionsFrom?_of_itemsFrom? {item? : Reader Json} {steps : Nat} (count : Nat)
    {cs rest : List Char} {items : List Json}
    (h : itemsFrom? item? steps cs = some (items, rest)) :
    positionsFrom? (List.replicate count item?) cs =
      if items.length ≤ count then some (items, rest) else none := by
  induction steps generalizing count cs items with
  | zero => cases h
  | succ steps ih =>
      obtain ⟨item, middle, hitem, hrest⟩ := itemsFrom?_succ_eq_some_iff.mp h
      cases count with
      | zero =>
          rcases hrest with ⟨behind, later, -, -, rfl⟩ | ⟨-, rfl⟩ <;> rfl
      | succ count =>
          rw [List.replicate_succ, positionsFrom?, hitem, Option.bind_eq_bind, Option.bind_some]
          rcases hrest with ⟨behind, later, hcomma, hlater, rfl⟩ | ⟨hclose, rfl⟩
          · simp only [hcomma, ih count hlater, List.length_cons, Nat.add_le_add_iff_right]
            split <;> rfl
          · simp [hclose]

theorem positions?_of_arrayItems? {item? : Reader Json} (count : Nat) {cs rest : List Char}
    {items : List Json} (h : arrayItems? item? cs = some (items, rest)) :
    positions? (List.replicate count item?) cs =
      if items.length ≤ count then some (items, rest) else none := by
  unfold arrayItems? at h
  split at h
  · next behind hclose =>
      cases h
      simp [positions?, hclose]
  · next hopen =>
      have hitems : positions? (List.replicate count item?) cs =
          positionsFrom? (List.replicate count item?) cs := by
        unfold positions?
        split
        · next behind hclose => exact absurd hclose (hopen behind)
        · rfl
      rw [hitems]
      exact positionsFrom?_of_itemsFrom? count h

/-! ## Records -/

section

variable (names : List String) {depth : Nat} {cs behind rest : List Char}

theorem recordForm_eq_none (fields : List (String × Form))
    (h : ∀ c ∈ ['[', '\x7b'], (skipSpace cs).head? ≠ some c) :
    recordForm fields depth cs = none := by
  unfold recordForm
  split
  · next hstart => exact absurd (congrArg List.head? hstart) (h '[' (by simp))
  · next hstart => exact absurd (congrArg List.head? hstart) (h '\x7b' (by simp))
  · rfl

/-- An array is a record if it has no more items than the record has fields. -/
theorem recordForm_array {items : List Json} (hstart : skipSpace cs = '[' :: behind)
    (hitems : arrayItems? (value? depth) behind = some (items, rest)) :
    recordForm (names.map fun name => (name, anyForm)) (depth + 1) cs =
      if items.length ≤ names.length then some (.array items, rest) else none := by
  have hreaders : ((names.map fun name => (name, anyForm)).map fun field => field.2 depth) =
      List.replicate names.length (value? depth) := by
    rw [List.map_map]
    exact List.map_const'
  unfold recordForm
  simp only [hstart]
  rw [hreaders, positions?_of_arrayItems? _ hitems]
  split <;> rfl

/-- An object is a record if it repeats no name of the record. -/
theorem recordForm_object {members : Fields} (hstart : skipSpace cs = '\x7b' :: behind)
    (hmembers : objectMembers? (member? (value? depth)) behind = some (members, rest)) :
    recordForm (names.map fun name => (name, anyForm)) (depth + 1) cs =
      if ((members.known names).map Prod.fst).Nodup then some (.object (members.known names), rest)
      else none := by
  have hreaders : ((names.map fun name => (name, anyForm)).map fun field =>
      (field.1, field.2 depth)) = names.map fun name => (name, value? depth) := by
    rw [List.map_map]
    rfl
  have hknown := objectMembers?_map (fun h => knownMember?_of_member? names h) hmembers
  unfold recordForm
  simp only [hstart]
  rw [hreaders, hknown, Option.bind_eq_bind, Option.bind_some]
  dsimp only
  rw [filterMap_known]

end

/-! ## Whole texts -/

/-- The members of the object that a text holds, in the order in which they stand there. -/
def members (s : String) : Fields :=
  match skipSpace s.toList with
  | '\x7b' :: behind =>
    ((objectMembers? (member? (value? (depthLimit - 1))) behind).map Prod.fst).getD []
  | _ => []

/-- A text holds a value, and if that is an object, none of the names is repeated in it. -/
structure Holds (names : List String) (s : String) (value : Json) : Prop where
  read : read? s = some value
  once : (((members s).known names).map Prod.fst).Nodup

theorem whole?_eq_some_iff {read? : Reader Json} {s : String} {value : Json} :
    whole? read? s = some value ↔
      ∃ rest, read? s.toList = some (value, rest) ∧ (skipSpace rest).isEmpty = true := by
  unfold whole?
  cases h : read? s.toList with
  | none => simp
  | some found =>
      obtain ⟨found, rest⟩ := found
      simp [and_comm]

variable {names : List String} {s : String} {value : Json}

theorem members_eq {deeper : Nat} {behind rest : List Char} {found : Fields}
    (hlimit : depthLimit = deeper + 1) (hstart : skipSpace s.toList = '\x7b' :: behind)
    (hmembers : objectMembers? (member? (value? deeper)) behind = some (found, rest)) :
    members s = found := by
  obtain rfl : deeper = depthLimit - 1 := by omega
  simp [members, hstart, hmembers]

/-- The fields of the object that a text holds are its members. -/
theorem fields_eq_of_read? {fields : Fields} (h : read? s = some (.object fields)) :
    fields = (members s).sorted := by
  obtain ⟨rest, hread, -⟩ := whole?_eq_some_iff.mp h
  cases readsAs_of_value? hread with
  | scalar hscalar _ _ _ => cases hscalar
  | object hlimit hstart hmembers => rw [members_eq hlimit hstart hmembers]

/-- What a record is read from, if the text holds a value. -/
theorem Holds.whole?_recordForm (h : Holds names s value) :
    whole? (recordForm (names.map fun name => (name, anyForm)) depthLimit) s =
      match value with
      | .object _ => some (.object ((members s).known names))
      | .array items => if items.length ≤ names.length then some (.array items) else none
      | _ => none := by
  obtain ⟨rest, hread, hend⟩ := whole?_eq_some_iff.mp h.read
  unfold whole?
  cases readsAs_of_value? hread with
  | null hstart _ => rw [recordForm_eq_none _ (by simp [hstart])]
  | scalar hscalar hstart _ _ =>
      rw [recordForm_eq_none _ fun c hc => hstart c (List.mem_cons_of_mem _ hc)]
      cases value <;> first | rfl | cases hscalar
  | array hlimit hstart hitems =>
      rw [hlimit, recordForm_array names hstart hitems]
      split <;> simp_all
  | object hlimit hstart hmembers =>
      have honce := h.once
      rw [members_eq hlimit hstart hmembers] at honce ⊢
      rw [hlimit, recordForm_object names hstart hmembers, if_pos honce]
      simp [hend]

/-! ## Null in place of a record -/

theorem recordForm_skipSpace (fields : List (String × Form)) (depth : Nat) (cs : List Char) :
    recordForm fields depth (skipSpace cs) = recordForm fields depth cs := by
  unfold recordForm
  rw [skipSpace_skipSpace]

theorem whole?_optionalForm_null (form : Form) (h : read? s = some .null) :
    whole? (optionalForm form depthLimit) s = some .null := by
  obtain ⟨rest, hread, hend⟩ := whole?_eq_some_iff.mp h
  apply whole?_eq_some_iff.mpr
  refine ⟨rest, ?_, hend⟩
  cases readsAs_of_value? hread with
  | null hstart hword => simp [optionalForm, hstart, hword]
  | scalar hscalar _ _ _ => cases hscalar

theorem ne_null_of_recordForm {fields : List (String × Form)} {depth : Nat} {cs rest : List Char}
    (h : recordForm fields depth cs = some (value, rest)) : value ≠ .null := by
  unfold recordForm at h
  split at h
  · obtain ⟨_, -, hpair⟩ := Option.map_eq_some_iff.mp h
    cases hpair
    exact Json.noConfusion
  · obtain ⟨_, -, h⟩ := Option.bind_eq_some_iff.mp h
    dsimp only at h
    split at h
    · cases h
      exact Json.noConfusion
    · cases h
  · cases h

/-- Only a text that holds null begins like one. -/
theorem whole?_optionalForm_of_ne (fields : List (String × Form)) (h : read? s = some value)
    (hvalue : value ≠ .null) :
    whole? (optionalForm (recordForm fields) depthLimit) s =
      whole? (recordForm fields depthLimit) s := by
  obtain ⟨rest, hread, -⟩ := whole?_eq_some_iff.mp h
  have hstart (behind : List Char) : skipSpace s.toList ≠ 'n' :: behind := by
    intro hnull
    cases readsAs_of_value? hread with
    | null _ _ => exact hvalue rfl
    | scalar _ hstart _ _ => exact hstart 'n' (by simp) (congrArg List.head? hnull)
    | array _ hsquare _ =>
        rw [hnull] at hsquare
        cases hsquare
    | object _ hbrace _ =>
        rw [hnull] at hbrace
        cases hbrace
  have hsame : optionalForm (recordForm fields) depthLimit s.toList =
      recordForm fields depthLimit s.toList := by
    unfold optionalForm
    split
    · next heq => exact absurd heq (hstart _)
    · exact recordForm_skipSpace fields depthLimit s.toList
  unfold whole?
  rw [hsame]

end Json

end MeshConsole
