import MeshConsole.Proofs.Json.Canonical
import MeshConsole.Proofs.Json.Tokens

/-!
# Layouts

Both forms in which values are written, compact and pretty, are layouts of one grammar. Between two
tokens there may be white space, and that is all in which they differ:

    compact ─┐
             ├──▶ Spells ──value?──▶ canonical value
    pretty ──┘

The grammar speaks of the values whose numbers are whole. Its texts are read back wherever they
stand (`value?_of_spells`), as long as the reader may go as deep as the value is nested. Each writer
then only has to be shown to follow the grammar, which is an induction on the value.
-/

namespace MeshConsole.Json

/-! ## The grammar -/

/-- White space and nothing else. -/
def IsBlank (cs : List Char) : Prop := ∀ c ∈ cs, isSpace c = true

/-- Parts behind white space, with a comma between any two of them. -/
inductive Listed {α : Type} (spells : List Char → α → Prop) : List Char → List α → Prop
  | last {before cs : List Char} {item : α} :
      IsBlank before → spells cs item → Listed spells (before ++ cs) [item]
  | cons {before cs later : List Char} {item : α} {items : List α} :
      IsBlank before → spells cs item → Listed spells later items →
      Listed spells (before ++ cs ++ ',' :: later) (item :: items)

/-- A key in quotes, a colon, and the value behind white space. -/
inductive SpellsMember (spells : List Char → Json → Prop) : List Char → String × Json → Prop
  | mk {before cs : List Char} {value : Json} (key : String) :
      IsBlank before → spells cs value →
      SpellsMember spells (quote key.toList ++ ':' :: (before ++ cs)) (key, value)

/-- A text of a value, without white space around it. -/
inductive Spells : List Char → Json → Prop
  | null : Spells "null".toList .null
  | bool (b : Bool) : Spells (writeBool b) (.bool b)
  | whole (n : Whole) : Spells (Decimal.integer n.val) (.number (.whole n))
  | text (s : String) : Spells (quote s.toList) (.text s)
  | noItems : Spells ['[', ']'] (.array [])
  | items {cs after : List Char} {items : List Json} :
      Listed Spells cs items → IsBlank after → Spells ('[' :: (cs ++ after ++ [']'])) (.array items)
  | noFields : Spells ['\x7b', '\x7d'] (.object [])
  | fields {cs after : List Char} {fields : Fields} :
      Listed (SpellsMember Spells) cs fields → IsBlank after →
      Spells ('\x7b' :: (cs ++ after ++ ['\x7d'])) (.object fields)

/-! ## White space -/

theorem isBlank_nil : IsBlank [] := List.forall_mem_nil _

theorem skipSpace_blank_append {before : List Char} (h : IsBlank before) (cs : List Char) :
    skipSpace (before ++ cs) = skipSpace cs := List.dropWhile_append_of_pos h

theorem skipSpace_cons {c : Char} (h : isSpace c = false) (cs : List Char) :
    skipSpace (c :: cs) = c :: cs := by
  simp [skipSpace, h]

/-- What follows a value ends a numeral: white space does, and so do commas and brackets. -/
theorem numeralEnds_blank_append {after rest : List Char} (hafter : IsBlank after)
    (hrest : NumeralEnds rest) : NumeralEnds (after ++ rest) := by
  cases after with
  | nil => exact hrest
  | cons c after =>
      have hspace : isSpace c = true := hafter c List.mem_cons_self
      simp only [isSpace, Bool.or_eq_true, beq_iff_eq] at hspace
      rw [List.cons_append, numeralEnds_cons]
      rcases hspace with ((rfl | rfl) | rfl) | rfl <;> decide

/-- A character that a value or a key can begin with. -/
def BeginsPart (c : Char) : Prop := isSpace c = false ∧ c ≠ ']' ∧ c ≠ '\x7d'

instance (c : Char) : Decidable (BeginsPart c) :=
  inferInstanceAs (Decidable (isSpace c = false ∧ c ≠ ']' ∧ c ≠ '\x7d'))

theorem beginsPart_of_isDigit {c : Char} (h : c.isDigit = true) : BeginsPart c := by
  refine ⟨?_, ?_, ?_⟩
  · by_contra hspace
    simp only [isSpace, Bool.not_eq_false, Bool.or_eq_true, beq_iff_eq] at hspace
    rcases hspace with ((rfl | rfl) | rfl) | rfl <;> cases h
  · rintro rfl
    cases h
  · rintro rfl
    cases h

theorem Spells.begins {cs : List Char} {value : Json} (h : Spells cs value) :
    ∃ c tail, cs = c :: tail ∧ BeginsPart c := by
  cases h with
  | null => exact ⟨'n', _, rfl, by decide⟩
  | bool b =>
      cases b with
      | false => exact ⟨'f', _, rfl, by decide⟩
      | true => exact ⟨'t', _, rfl, by decide⟩
  | whole n =>
      obtain ⟨c, tail, hcs, hdigit | rfl⟩ := integer_eq_cons n.val
      · exact ⟨c, tail, hcs, beginsPart_of_isDigit hdigit⟩
      · exact ⟨'-', tail, hcs, by decide⟩
  | text s => exact ⟨'"', _, rfl, by decide⟩
  | noItems => exact ⟨'[', _, rfl, by decide⟩
  | items _ _ => exact ⟨'[', _, rfl, by decide⟩
  | noFields => exact ⟨'\x7b', _, rfl, by decide⟩
  | fields _ _ => exact ⟨'\x7b', _, rfl, by decide⟩

/-- Of a text behind white space nothing else is skipped. -/
theorem Spells.skipSpace_append {cs before : List Char} {value : Json} (h : Spells cs value)
    (hbefore : IsBlank before) (rest : List Char) :
    skipSpace (before ++ (cs ++ rest)) = cs ++ rest := by
  obtain ⟨c, tail, rfl, hc⟩ := h.begins
  rw [skipSpace_blank_append hbefore]
  exact skipSpace_cons hc.1 _

theorem SpellsMember.begins {spells : List Char → Json → Prop} {cs : List Char}
    {member : String × Json} (h : SpellsMember spells cs member) :
    ∃ c tail, cs = c :: tail ∧ BeginsPart c := by
  cases h with
  | mk key _ _ => exact ⟨'"', _, rfl, by decide⟩

/-! ## Reading what is listed -/

section

variable {α β : Type} {spells : List Char → α → Prop} {item? : Reader β} {read : α → β}
  {cs after : List Char} {items : List α}

namespace Listed

theorem single {item : α} (h : spells cs item) : Listed spells cs [item] :=
  .last isBlank_nil h

theorem push {later : List Char} {item : α} (h : spells cs item)
    (hlater : Listed spells later items) : Listed spells (cs ++ ',' :: later) (item :: items) :=
  .cons isBlank_nil h hlater

theorem length_le (h : Listed spells cs items) : items.length ≤ cs.length + 1 := by
  induction h with
  | last _ _ => simp
  | cons _ _ _ ih =>
      simp only [List.length_cons, List.length_append] at ih ⊢
      omega

theorem begins (hparts : ∀ {cs : List Char} {item : α}, spells cs item →
      ∃ c tail, cs = c :: tail ∧ BeginsPart c)
    (h : Listed spells cs items) (rest : List Char) :
    ∃ c tail, skipSpace (cs ++ rest) = c :: tail ∧ BeginsPart c := by
  cases h with
  | last hbefore hitem =>
      obtain ⟨c, tail, rfl, hc⟩ := hparts hitem
      refine ⟨c, tail ++ rest, ?_, hc⟩
      rw [List.append_assoc, skipSpace_blank_append hbefore]
      exact skipSpace_cons hc.1 _
  | @cons _ _ later _ _ hbefore hitem _ =>
      obtain ⟨c, tail, rfl, hc⟩ := hparts hitem
      refine ⟨c, tail ++ ',' :: later ++ rest, ?_, hc⟩
      rw [List.append_assoc, List.append_assoc, skipSpace_blank_append hbefore, List.cons_append,
        skipSpace_cons hc.1, List.append_assoc]

end Listed

/-- A reader takes back what is spelled, wherever it stands. -/
def TakesBack (spells : List Char → α → Prop) (item? : Reader β) (read : α → β) (item : α) : Prop :=
  ∀ {cs : List Char}, spells cs item → ∀ {before : List Char}, IsBlank before →
    ∀ {rest : List Char}, NumeralEnds rest →
      item? (before ++ (cs ++ rest)) = some (read item, rest)

namespace ReadsParts

variable {closing : Char} {partsFrom? : Nat → Reader (List β)} {parts? : Reader (List β)}

/-- A closing bracket is no white space, and it ends a numeral. -/
theorem skipSpace_closing (hreads : ReadsParts closing item? partsFrom? parts?)
    (hafter : IsBlank after) (rest : List Char) :
    skipSpace (after ++ closing :: rest) = closing :: rest ∧
      NumeralEnds (after ++ closing :: rest) := by
  have hclosing : isSpace closing = false ∧ NumeralEnds (closing :: rest) := by
    rw [numeralEnds_cons]
    rcases hreads.isBracket with rfl | rfl <;> decide
  rw [skipSpace_blank_append hafter, skipSpace_cons hclosing.1]
  exact ⟨rfl, numeralEnds_blank_append hafter hclosing.2⟩

theorem partsFrom?_of_listed (hreads : ReadsParts closing item? partsFrom? parts?)
    (hread : ∀ item ∈ items, TakesBack spells item? read item) (h : Listed spells cs items)
    (hafter : IsBlank after) {steps : Nat} (hsteps : items.length ≤ steps) (rest : List Char) :
    partsFrom? steps (cs ++ (after ++ closing :: rest)) = some (items.map read, rest) := by
  obtain ⟨hclosing, hends⟩ := hreads.skipSpace_closing hafter rest
  induction h generalizing steps with
  | @last before cs item hbefore hitem =>
      obtain ⟨more, rfl⟩ : ∃ more, steps = more + 1 := ⟨steps - 1, by simp at hsteps; omega⟩
      refine hreads.succ.mpr
        ⟨read item, after ++ closing :: rest, ?_, Or.inr ⟨hclosing, rfl⟩⟩
      rw [List.append_assoc]
      exact hread item List.mem_cons_self hitem hbefore hends
  | @cons before cs later item items hbefore hitem _ ih =>
      obtain ⟨more, rfl⟩ : ∃ more, steps = more + 1 := ⟨steps - 1, by simp at hsteps; omega⟩
      rw [List.length_cons, Nat.add_le_add_iff_right] at hsteps
      have hlater := ih (fun item hitem => hread item (List.mem_cons_of_mem _ hitem)) hsteps
      refine hreads.succ.mpr
        ⟨read item, ',' :: (later ++ (after ++ closing :: rest)), ?_,
          Or.inl ⟨_, _, skipSpace_cons (by decide) _, hlater, rfl⟩⟩
      rw [List.append_assoc, List.append_assoc]
      exact hread item List.mem_cons_self hitem hbefore (numeralEnds_cons.mpr (by decide))

/-- Parts that are listed in front of a closing bracket are read back. -/
theorem parts?_of_listed (hreads : ReadsParts closing item? partsFrom? parts?)
    (hparts : ∀ {cs : List Char} {item : α}, spells cs item →
      ∃ c tail, cs = c :: tail ∧ BeginsPart c)
    (hread : ∀ item ∈ items, TakesBack spells item? read item) (h : Listed spells cs items)
    (hafter : IsBlank after) (rest : List Char) :
    parts? (cs ++ (after ++ closing :: rest)) = some (items.map read, rest) := by
  obtain ⟨c, tail, hstart, hc⟩ := h.begins hparts (after ++ closing :: rest)
  have hlength := h.length_le
  rw [hreads.opened]
  · refine hreads.partsFrom?_of_listed hread h hafter ?_ rest
    simp only [List.length_append, List.length_cons]
    omega
  · -- A part does not begin with a closing bracket.
    intro behind hclosed
    obtain rfl : c = closing := (List.cons.inj (hstart.symm.trans hclosed)).1
    exact hreads.isBracket.elim hc.2.1 hc.2.2

end ReadsParts

end

/-- A key that is spelled is read back, and then the value behind its colon. -/
theorem takesBack_member {value? : Reader Json} {member : String × Json}
    (hvalue : TakesBack Spells value? canonical member.2) :
    TakesBack (SpellsMember Spells) (member? value?) canonicalField member := by
  intro cs h before hbefore rest hrest
  cases h with
  | @mk between cs value key hbetween hspells =>
      have hkey : key? (before ++ (quote key.toList ++ ':' :: (between ++ cs) ++ rest)) =
          some (key, between ++ (cs ++ rest)) := by
        have hcolon (behind : List Char) : skipSpace (':' :: behind) = ':' :: behind :=
          skipSpace_cons (by decide) _
        rw [key?, skipSpace_blank_append hbefore, List.append_assoc, quote_append,
          skipSpace_cons (by decide)]
        simp only [quoted?_quote, Option.bind_eq_bind, Option.bind_some, List.cons_append, hcolon,
          String.ofList_toList, List.append_assoc]
      simp only [member?, hkey, Option.bind_eq_bind, Option.bind_some,
        hvalue hspells hbetween hrest, canonicalField]

/-! ## Reading a value -/

section

variable {depth : Nat} {cs behind rest : List Char}

theorem value?_array {items : List Json} (hstart : skipSpace cs = '[' :: behind)
    (hitems : arrayItems? (value? depth) behind = some (items, rest)) :
    value? (depth + 1) cs = some (.array items, rest) := by
  unfold value?
  simp only [hstart, hitems, Option.map_some]

theorem value?_object {members : Fields} (hstart : skipSpace cs = '\x7b' :: behind)
    (hmembers : objectMembers? (member? (value? depth)) behind = some (members, rest)) :
    value? (depth + 1) cs = some (.object members.sorted, rest) := by
  unfold value?
  simp only [hstart, hmembers, Option.map_some]

theorem value?_integer (depth : Nat) (n : Whole)
    (hstart : skipSpace cs = Decimal.integer n.val ++ rest) (hrest : NumeralEnds rest) :
    value? depth cs = some (.number (.whole n), rest) := by
  obtain ⟨c, tail, hcs, hc⟩ := integer_eq_cons n.val
  have hfirst {c' : Char} (hc' : c' ∈ ['n', 't', 'f', '"', '[', '\x7b']) (tail' : List Char) :
      skipSpace cs ≠ c' :: tail' := by
    rw [hstart, hcs, List.cons_append]
    rintro ⟨⟩
    rcases hc with hc | rfl
    · simp only [List.mem_cons, List.not_mem_nil, or_false] at hc'
      rcases hc' with rfl | rfl | rfl | rfl | rfl | rfl <;> cases hc
    · exact absurd hc' (by decide)
  unfold value?
  split
  iterate 6 · next h => exact absurd h (hfirst (by simp) _)
  · rw [hstart, numeral?_integer n.val hrest]
    simp only [Option.bind_eq_bind, Option.bind_some, value?_of_whole]

end

theorem value?_skipSpace (depth : Nat) (cs : List Char) :
    value? depth (skipSpace cs) = value? depth cs := by
  unfold value?
  rw [skipSpace_skipSpace]

/-- **What is spelled is read back.** In front of anything that does not continue a numeral, a text
of a value is read as the canonical form of that value. -/
theorem takesBack_value? (value : Json) {depth : Nat} (hdepth : IsNested depth value) :
    TakesBack Spells (value? depth) canonical value := by
  -- The items of an array and the values of an object are read with the smaller depth that their
  -- nesting allows.
  induction value using Json.induction generalizing depth with
  | null =>
      intro cs h before hbefore rest _
      rw [← value?_skipSpace, h.skipSpace_append hbefore]
      cases h
      cases depth <;> rfl
  | bool b =>
      intro cs h before hbefore rest _
      rw [← value?_skipSpace, h.skipSpace_append hbefore]
      cases h
      cases b <;> cases depth <;> rfl
  | number n =>
      intro cs h before hbefore rest hrest
      have hstart := h.skipSpace_append hbefore rest
      cases h
      exact value?_integer depth _ hstart hrest
  | text s =>
      intro cs h before hbefore rest _
      have hstart := h.skipSpace_append hbefore rest
      cases h
      rw [quote_append] at hstart
      unfold value?
      simp only [quote_append, hstart, quoted?_quote, Option.map_some, String.ofList_toList,
        canonical]
  | array items ih =>
      intro cs h before hbefore rest _
      have hstart := h.skipSpace_append hbefore rest
      cases depth with
      | zero => cases hdepth
      | succ deeper =>
          rw [canonical_array]
          cases h with
          | noItems => exact value?_array hstart rfl
          | items hlisted hafter =>
              have hitems := (readsParts_items _).parts?_of_listed Spells.begins
                (fun item hitem => ih item hitem (hdepth item hitem)) hlisted hafter rest
              refine value?_array hstart ?_
              simpa only [List.append_eq, List.append_assoc, List.singleton_append] using hitems
  | object fields ih =>
      intro cs h before hbefore rest _
      have hstart := h.skipSpace_append hbefore rest
      cases depth with
      | zero => cases hdepth
      | succ deeper =>
          rw [canonical_object]
          cases h with
          | noFields => exact value?_object hstart rfl
          | fields hlisted hafter =>
              have hmembers := (readsParts_members _).parts?_of_listed SpellsMember.begins
                (fun field hfield => takesBack_member (ih field hfield (hdepth field hfield)))
                hlisted hafter rest
              refine value?_object hstart ?_
              simpa only [List.append_eq, List.append_assoc, List.singleton_append] using hmembers

/-- A whole text of a value, with or without white space at its end, is read as the canonical form
of that value. -/
theorem read?_of_spells {cs after : List Char} {value : Json} (h : Spells cs value)
    (hdepth : IsNested depthLimit value) (hafter : IsBlank after) :
    read? (String.ofList (cs ++ after)) = some value.canonical := by
  have hends : NumeralEnds after := by
    have hnil := numeralEnds_blank_append hafter numeralEnds_nil
    rwa [List.append_nil] at hnil
  have hend : skipSpace after = [] := by
    have hnil := skipSpace_blank_append hafter []
    rwa [List.append_nil] at hnil
  have hread := takesBack_value? value hdepth h isBlank_nil hends
  rw [List.nil_append] at hread
  refine whole?_eq_some_iff.mpr ⟨after, ?_, ?_⟩
  · rw [String.toList_ofList, hread]
  · rw [hend, List.isEmpty_nil]

/-! ## What is written follows the grammar -/

theorem listed_compactItems {items : List Json} (hne : items ≠ [])
    (h : ∀ item ∈ items, Spells (compactChars item) item) :
    Listed Spells (compactItems items) items := by
  induction items with
  | nil => exact absurd rfl hne
  | cons item items ih =>
      obtain ⟨hitem, hitems⟩ := List.forall_mem_cons.mp h
      cases items with
      | nil => exact .single hitem
      | cons next items => exact .push hitem (ih (List.cons_ne_nil _ _) hitems)

theorem listed_compactFields {fields : Fields} (hne : fields ≠ [])
    (h : ∀ field ∈ fields, Spells (compactChars field.2) field.2) :
    Listed (SpellsMember Spells) (compactFields fields) fields := by
  induction fields with
  | nil => exact absurd rfl hne
  | cons field fields ih =>
      obtain ⟨key, value⟩ := field
      obtain ⟨hvalue, hfields⟩ := List.forall_mem_cons.mp h
      have hmember := SpellsMember.mk key isBlank_nil hvalue
      cases fields with
      | nil => exact .single hmember
      | cons next fields => exact .push hmember (ih (List.cons_ne_nil _ _) hfields)

/-- The compact form is a layout. -/
theorem spells_compactChars (value : Json) (h : value.HasWholeNumbers) :
    Spells (compactChars value) value := by
  induction value using Json.induction with
  | null => exact .null
  | bool b => exact .bool b
  | number n =>
      obtain ⟨whole, rfl⟩ := hasWholeNumbers_number.mp h
      exact .whole whole
  | text s => exact .text s
  | array items ih =>
      cases items with
      | nil => exact .noItems
      | cons item items =>
          have hlisted := listed_compactItems (List.cons_ne_nil item items)
            fun item hitem => ih item hitem (hasWholeNumbers_array.mp h item hitem)
          have hspells := Spells.items hlisted isBlank_nil
          rwa [List.append_nil] at hspells
  | object fields ih =>
      cases fields with
      | nil => exact .noFields
      | cons field fields =>
          have hlisted := listed_compactFields (List.cons_ne_nil field fields)
            fun field hfield => ih field hfield (hasWholeNumbers_object.mp h field hfield)
          have hspells := Spells.fields hlisted isBlank_nil
          rwa [List.append_nil] at hspells

theorem isBlank_newLine (level : Nat) : IsBlank (newLine level) := by
  intro c hc
  rcases List.mem_cons.mp hc with rfl | hc
  · rfl
  · rw [List.eq_of_mem_replicate hc]
    rfl

theorem listed_prettyItems (level : Nat) {items : List Json} (hne : items ≠ [])
    (h : ∀ item ∈ items, Spells (prettyChars level item) item) :
    Listed Spells (prettyItems level items) items := by
  induction items with
  | nil => exact absurd rfl hne
  | cons item items ih =>
      obtain ⟨hitem, hitems⟩ := List.forall_mem_cons.mp h
      cases items with
      | nil => exact .last (isBlank_newLine level) hitem
      | cons next items =>
          exact .cons (isBlank_newLine level) hitem (ih (List.cons_ne_nil _ _) hitems)

theorem listed_prettyFields (level : Nat) {fields : Fields} (hne : fields ≠ [])
    (h : ∀ field ∈ fields, Spells (prettyChars level field.2) field.2) :
    Listed (SpellsMember Spells) (prettyFields level fields) fields := by
  induction fields with
  | nil => exact absurd rfl hne
  | cons field fields ih =>
      obtain ⟨key, value⟩ := field
      obtain ⟨hvalue, hfields⟩ := List.forall_mem_cons.mp h
      have hmember := SpellsMember.mk key (List.forall_mem_singleton.mpr rfl : IsBlank [' ']) hvalue
      cases fields with
      | nil =>
          rw [prettyFields, List.append_assoc]
          exact .last (isBlank_newLine level) hmember
      | cons next fields =>
          have hlisted := Listed.cons (isBlank_newLine level) hmember
            (ih (List.cons_ne_nil _ _) hfields)
          rw [prettyFields]
          simpa using hlisted

/-- The pretty form is a layout. -/
theorem spells_prettyChars (value : Json) (level : Nat) (h : value.HasWholeNumbers) :
    Spells (prettyChars level value) value := by
  induction value using Json.induction generalizing level with
  | null => exact .null
  | bool b => exact .bool b
  | number n =>
      obtain ⟨whole, rfl⟩ := hasWholeNumbers_number.mp h
      exact .whole whole
  | text s => exact .text s
  | array items ih =>
      cases items with
      | nil => exact .noItems
      | cons item items =>
          have hlisted := listed_prettyItems (level + 1) (List.cons_ne_nil item items)
            fun item hitem => ih item hitem (level + 1) (hasWholeNumbers_array.mp h item hitem)
          exact .items hlisted (isBlank_newLine level)
  | object fields ih =>
      cases fields with
      | nil => exact .noFields
      | cons field fields =>
          have hlisted := listed_prettyFields (level + 1) (List.cons_ne_nil field fields)
            fun field hfield =>
              ih field hfield (level + 1) (hasWholeNumbers_object.mp h field hfield)
          exact .fields hlisted (isBlank_newLine level)

/-! ## Written and read -/

section

variable {value : Json}

theorem read?_compact (hdepth : IsNested depthLimit value) (hwhole : value.HasWholeNumbers) :
    read? value.compact = some value.canonical := by
  have hread := read?_of_spells (spells_compactChars value hwhole) hdepth isBlank_nil
  rwa [List.append_nil] at hread

theorem read?_pretty (hdepth : IsNested depthLimit value) (hwhole : value.HasWholeNumbers) :
    read? value.pretty = some value.canonical := by
  have hread := read?_of_spells (spells_prettyChars value 0 hwhole) hdepth isBlank_nil
  rwa [List.append_nil] at hread

/-- A value in pretty form can also stand on lines of its own. -/
theorem read?_pretty_newline (hdepth : IsNested depthLimit value)
    (hwhole : value.HasWholeNumbers) : read? (value.pretty ++ "\n") = some value.canonical := by
  have hread := read?_of_spells (spells_prettyChars value 0 hwhole) hdepth
    (List.forall_mem_singleton.mpr rfl : IsBlank ['\n'])
  rwa [String.ofList_append] at hread

end

end MeshConsole.Json
