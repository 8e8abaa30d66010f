import MeshConsole.Json.Record
import Mathlib.Data.List.DropRight

/-!
# Values that are passed over

A member of an object that no field is named after is not read. A machine passes over it, with the
open brackets on a stack and as many steps as the text allows:

    value?    characters ──▶ value, rest
    pass?     characters ──▶ rest

The machine accepts more than the reader: there may be numbers out of range, halves of surrogate
pairs, and any depth. What counts here is the converse (`pass?_of_value?`): where the reader reads a
value, the machine stops behind it, so an unknown member never keeps a record from being read.

A run of the machine is a `Passes`, and runs are put together like the values they pass over.
-/

namespace MeshConsole.Json

/-! ## How far a reader goes -/

theorem length_skipSpace_le (cs : List Char) : (skipSpace cs).length ≤ cs.length :=
  (List.dropWhile_suffix isSpace).length_le

@[simp] theorem skipSpace_skipSpace (cs : List Char) : skipSpace (skipSpace cs) = skipSpace cs :=
  List.dropWhile_idempotent isSpace cs

theorem length_of_skipSpace {cs rest : List Char} {c : Char} (h : skipSpace cs = c :: rest) :
    rest.length < cs.length := by
  have hle := length_skipSpace_le cs
  rw [h, List.length_cons] at hle
  omega

theorem length_of_afterWord? {word cs rest : List Char} (h : afterWord? word cs = some rest) :
    rest.length ≤ cs.length := by
  fun_induction afterWord? word cs with
  | case1 cs =>
      cases h
      exact Nat.le_refl _
  | case2 word c cs ih =>
      have hle := ih h
      simp only [List.length_cons]
      omega
  | case3 => cases h
  | case4 => cases h

theorem length_of_hexQuad? {cs rest : List Char} {n : Nat} (h : hexQuad? cs = some (n, rest)) :
    rest.length < cs.length := by
  unfold hexQuad? at h
  split at h
  · simp only [Option.bind_eq_bind, Option.bind_eq_some_iff, Option.some_inj, Prod.mk.injEq] at h
    obtain ⟨_, _, _, _, _, _, _, _, _, rfl⟩ := h
    simp only [List.length_cons]
    omega
  · cases h

/-! ## Texts -/

theorem length_of_passQuotedChar? {cs rest : List Char} (h : passQuotedChar? cs = some rest) :
    rest.length < cs.length := by
  unfold passQuotedChar? at h
  split at h
  · obtain ⟨⟨n, behind⟩, hquad, rfl⟩ := Option.map_eq_some_iff.mp h
    have hlt := length_of_hexQuad? hquad
    simp only [List.length_cons]
    omega
  · obtain ⟨letter, -, rfl⟩ := Option.map_eq_some_iff.mp h
    simp only [List.length_cons]
    omega
  · split at h
    · cases h
      exact Nat.lt_succ_self _
    · cases h
  · cases h

/-- The escape of a surrogate pair is two escapes, that of any other character is one. -/
theorem hexQuad?_of_unicodeEscape? {cs rest : List Char} {c : Char}
    (h : unicodeEscape? cs = some (c, rest)) :
    ∃ first middle, hexQuad? cs = some (first, middle) ∧
      (middle = rest ∨
        ∃ behind second, middle = '\\' :: 'u' :: behind ∧
          hexQuad? behind = some (second, rest)) := by
  simp only [unicodeEscape?, Option.bind_eq_bind, Option.bind_eq_some_iff] at h
  obtain ⟨⟨first, middle⟩, hquad, h⟩ := h
  refine ⟨first, middle, hquad, ?_⟩
  dsimp only at h
  split at h
  · cases h
  split at h
  · split at h
    · next behind =>
        obtain ⟨⟨second, rest'⟩, hsecond, h⟩ := Option.bind_eq_some_iff.mp h
        dsimp only at h
        split at h
        · simp only [Option.some_inj, Prod.mk.injEq] at h
          obtain ⟨-, rfl⟩ := h
          exact Or.inr ⟨behind, second, rfl, hsecond⟩
        · cases h
    · cases h
  · simp only [Option.some_inj, Prod.mk.injEq] at h
    exact Or.inl h.2

theorem passQuotedChar?_of_quotedChar? {cs rest : List Char} {c : Char}
    (h : quotedChar? cs = some (c, rest)) :
    passQuotedChar? cs = some rest ∨
      ∃ middle, passQuotedChar? cs = some middle ∧ passQuotedChar? middle = some rest := by
  unfold quotedChar? at h
  split at h
  · obtain ⟨first, middle, hfirst, rfl | ⟨behind, second, rfl, hsecond⟩⟩ :=
      hexQuad?_of_unicodeEscape? h
    · left
      simp [passQuotedChar?, hfirst]
    · right
      refine ⟨'\\' :: 'u' :: behind, ?_, ?_⟩
      · simp [passQuotedChar?, hfirst]
      · simp [passQuotedChar?, hsecond]
  · obtain ⟨d, hd, hpair⟩ := Option.map_eq_some_iff.mp h
    cases hpair
    left
    simp [passQuotedChar?, hd]
  · next c' behind hletter hother =>
      split at h
      · next hplain =>
          simp only [Option.some_inj, Prod.mk.injEq] at h
          obtain ⟨rfl, rfl⟩ := h
          left
          rw [passQuotedChar?]
          · simp [hplain]
          · simpa using hletter
          · simpa using hother
      · cases h
  · cases h

theorem passQuotedFrom?_succ {cs middle : List Char} (h : passQuotedChar? cs = some middle)
    (more : Nat) : passQuotedFrom? (more + 1) cs = passQuotedFrom? more middle := by
  rw [passQuotedFrom?, h]
  -- The closing quote is no character in quotes.
  rintro rest rfl
  simp [passQuotedChar?, isPlain] at h

theorem passQuotedFrom?_of_quotedFrom? {steps : Nat} {seen cs s rest : List Char}
    (h : quotedFrom? steps seen cs = some (s, rest)) :
    rest.length < cs.length ∧
      ∀ more, cs.length ≤ more → passQuotedFrom? more cs = some rest := by
  fun_induction quotedFrom? steps seen cs with
  | case1 => cases h
  | case2 steps seen behind =>
      cases h
      refine ⟨Nat.lt_succ_self _, fun more hmore => ?_⟩
      cases more with
      | zero => simp at hmore
      | succ more => rfl
  | case3 seen cs steps hend c middle hchar ih =>
      -- A surrogate pair is one character to the reader and two to the machine.
      obtain ⟨hlt, hpass⟩ := ih h
      rcases passQuotedChar?_of_quotedChar? hchar with hone | ⟨half, hfirst, hsecond⟩
      · have hshorter := length_of_passQuotedChar? hone
        refine ⟨by omega, fun more hmore => ?_⟩
        obtain ⟨fewer, rfl⟩ : ∃ fewer, more = fewer + 1 := ⟨more - 1, by omega⟩
        rw [passQuotedFrom?_succ hone]
        exact hpass fewer (by omega)
      · have hhalf := length_of_passQuotedChar? hfirst
        have hshorter := length_of_passQuotedChar? hsecond
        refine ⟨by omega, fun more hmore => ?_⟩
        obtain ⟨fewer, rfl⟩ : ∃ fewer, more = fewer + 2 := ⟨more - 2, by omega⟩
        rw [passQuotedFrom?_succ hfirst, passQuotedFrom?_succ hsecond]
        exact hpass fewer (by omega)
  | case4 => cases h

theorem passQuoted?_of_quoted? {cs s rest : List Char} (h : quoted? cs = some (s, rest)) :
    passQuoted? cs = some rest ∧ rest.length < cs.length := by
  obtain ⟨hlt, hpass⟩ := passQuotedFrom?_of_quotedFrom? h
  exact ⟨hpass cs.length (Nat.le_refl _), hlt⟩

theorem passKey?_of_key? {cs rest : List Char} {key : String} (h : key? cs = some (key, rest))
    (outer : List Bracket) :
    (∃ behind, skipSpace cs = '"' :: behind) ∧
      passKey? (.brace :: outer) cs = some rest ∧ rest.length < cs.length := by
  unfold key? at h
  split at h
  · next behind hquote =>
      obtain ⟨⟨s, middle⟩, hs, h⟩ := Option.bind_eq_some_iff.mp h
      dsimp only at h
      split at h
      · next rest' hcolon =>
          cases h
          obtain ⟨hpass, hlt⟩ := passQuoted?_of_quoted? hs
          have hstart := length_of_skipSpace hquote
          have hend := length_of_skipSpace hcolon
          refine ⟨⟨behind, hquote⟩, ?_, by omega⟩
          simp [passKey?, hquote, hpass, hcolon]
      · cases h
  · cases h

/-! ## Numerals -/

theorem length_afterDigits_le (cs : List Char) : (Decimal.afterDigits cs).length ≤ cs.length :=
  (List.dropWhile_suffix Char.isDigit).length_le

theorem length_afterDigits_lt {cs : List Char} (h : (Decimal.digitRun cs).isEmpty = false) :
    (Decimal.afterDigits cs).length < cs.length := by
  have hsplit : Decimal.digitRun cs ++ Decimal.afterDigits cs = cs :=
    List.takeWhile_append_dropWhile
  have hpositive : 0 < (Decimal.digitRun cs).length := by
    rw [List.length_pos_iff]
    simpa using h
  have hlength := congrArg List.length hsplit
  rw [List.length_append] at hlength
  omega

theorem length_of_wholePart? {cs digits rest : List Char}
    (h : wholePart? cs = some (digits, rest)) : rest.length < cs.length := by
  unfold wholePart? at h
  split at h
  · cases h
  · cases h
  · next hne _ =>
      simp only [Option.some_inj, Prod.mk.injEq] at h
      obtain ⟨-, rfl⟩ := h
      exact length_afterDigits_lt (by simpa using hne)

theorem length_of_fractionPart? {cs rest : List Char} {fraction : Option (List Char)}
    (h : fractionPart? cs = some (fraction, rest)) : rest.length ≤ cs.length := by
  unfold fractionPart? at h
  split at h
  · next behind =>
      split at h
      · cases h
      · simp only [Option.some_inj, Prod.mk.injEq] at h
        obtain ⟨-, rfl⟩ := h
        have hle := length_afterDigits_le behind
        simp only [List.length_cons]
        omega
  · cases h
    exact Nat.le_refl _

theorem length_of_exponentPart? {cs rest : List Char} {exponent : Option (Bool × List Char)}
    (h : exponentPart? cs = some (exponent, rest)) : rest.length ≤ cs.length := by
  unfold exponentPart? at h
  split at h
  · next c behind =>
      split at h
      · have hsign : (Decimal.splitSign behind).2.length ≤ behind.length := by
          unfold Decimal.splitSign
          split <;> simp
        dsimp only at h
        split at h
        · cases h
        · simp only [Option.some_inj, Prod.mk.injEq] at h
          obtain ⟨-, rfl⟩ := h
          have hle := length_afterDigits_le (Decimal.splitSign behind).2
          simp only [List.length_cons]
          omega
      · cases h
        exact Nat.le_refl _
  · cases h
    exact Nat.le_refl _

theorem length_of_numeral? {cs rest : List Char} {numeral : Numeral}
    (h : numeral? cs = some (numeral, rest)) : rest.length < cs.length := by
  have hminus : (minus cs).2.length ≤ cs.length := by
    unfold minus
    split <;> simp
  simp only [numeral?, Option.bind_eq_bind, Option.bind_eq_some_iff] at h
  obtain ⟨⟨digits, first⟩, hwhole, ⟨fraction, second⟩, hfraction, ⟨exponent, third⟩, hexponent,
    h⟩ := h
  simp only [Option.some_inj, Prod.mk.injEq] at h
  obtain ⟨-, rfl⟩ := h
  have hfirst := length_of_wholePart? hwhole
  have hsecond := length_of_fractionPart? hfraction
  have hthird := length_of_exponentPart? hexponent
  dsimp only at hfirst hsecond hthird
  omega

/-! ## Values -/

/-- A value that is neither null nor an array nor an object. -/
def IsScalar : Json → Prop
  | .bool _ | .number _ | .text _ => True
  | .null | .array _ | .object _ => False

/-- The ways in which a value can be read. -/
inductive ReadsAs (depth : Nat) (cs rest : List Char) : Json → Prop
  | null {behind : List Char} :
      skipSpace cs = 'n' :: behind → afterWord? ['u', 'l', 'l'] behind = some rest →
      ReadsAs depth cs rest .null
  | scalar {value : Json} :
      value.IsScalar → (∀ c ∈ ['n', '[', '\x7b'], (skipSpace cs).head? ≠ some c) →
      passScalar? (skipSpace cs) = some rest → rest.length < cs.length →
      ReadsAs depth cs rest value
  | array {deeper : Nat} {behind : List Char} {items : List Json} :
      depth = deeper + 1 → skipSpace cs = '[' :: behind →
      arrayItems? (value? deeper) behind = some (items, rest) →
      ReadsAs depth cs rest (.array items)
  | object {deeper : Nat} {behind : List Char} {members : Fields} :
      depth = deeper + 1 → skipSpace cs = '\x7b' :: behind →
      objectMembers? (member? (value? deeper)) behind = some (members, rest) →
      ReadsAs depth cs rest (.object (Fields.sorted members))

theorem readsAs_of_value? {depth : Nat} {cs rest : List Char} {value : Json}
    (h : value? depth cs = some (value, rest)) : ReadsAs depth cs rest value := by
  have hle := length_skipSpace_le cs
  unfold value? at h
  split at h
  · next behind hstart =>
      obtain ⟨rest', hrest, hpair⟩ := Option.map_eq_some_iff.mp h
      cases hpair
      exact .null hstart hrest
  · next behind hstart =>
      obtain ⟨rest', hrest, hpair⟩ := Option.map_eq_some_iff.mp h
      cases hpair
      have hlt := length_of_afterWord? hrest
      have hcs := length_of_skipSpace hstart
      exact .scalar trivial (by simp [hstart]) (by rw [hstart]; exact hrest) (by omega)
  · next behind hstart =>
      obtain ⟨rest', hrest, hpair⟩ := Option.map_eq_some_iff.mp h
      cases hpair
      have hlt := length_of_afterWord? hrest
      have hcs := length_of_skipSpace hstart
      exact .scalar trivial (by simp [hstart]) (by rw [hstart]; exact hrest) (by omega)
  · next behind hstart =>
      obtain ⟨⟨s, rest'⟩, hrest, hpair⟩ := Option.map_eq_some_iff.mp h
      cases hpair
      obtain ⟨hpass, hlt⟩ := passQuoted?_of_quoted? hrest
      have hcs := length_of_skipSpace hstart
      exact .scalar trivial (by simp [hstart]) (by rw [hstart]; exact hpass) (by omega)
  · next behind hstart =>
      split at h
      · cases h
      · next deeper =>
          obtain ⟨⟨items, rest'⟩, hitems, hpair⟩ := Option.map_eq_some_iff.mp h
          cases hpair
          exact .array rfl hstart hitems
  · next behind hstart =>
      split at h
      · cases h
      · next deeper =>
          obtain ⟨⟨members, rest'⟩, hmembers, hpair⟩ := Option.map_eq_some_iff.mp h
          cases hpair
          exact .object rfl hstart hmembers
  · next hnull htrue hfalse hquote hsquare hbrace =>
      simp only [Option.bind_eq_bind, Option.bind_eq_some_iff, Option.some_inj, Prod.mk.injEq] at h
      obtain ⟨⟨numeral, rest'⟩, hnumeral, number, -, rfl, rfl⟩ := h
      have hlt := length_of_numeral? hnumeral
      refine .scalar trivial ?_ ?_ (by dsimp only at hlt ⊢; omega)
      · simp [List.head?_eq_some_iff]
        exact ⟨hnull, hsquare, hbrace⟩
      · rw [passScalar?]
        · rw [hnumeral]
          rfl
        · exact hnull
        · exact htrue
        · exact hfalse
        · exact hquote

/-! ## Items and members -/

section

variable {α : Type} {item? : Reader α} {steps : Nat} {cs rest : List Char} {items : List α}

theorem itemsFrom?_succ_eq_some_iff :
    itemsFrom? item? (steps + 1) cs = some (items, rest) ↔
      ∃ item middle, item? cs = some (item, middle) ∧
        ((∃ behind later, skipSpace middle = ',' :: behind ∧
            itemsFrom? item? steps behind = some (later, rest) ∧ item :: later = items) ∨
          skipSpace middle = ']' :: rest ∧ [item] = items) := by
  simp only [itemsFrom?, Option.bind_eq_bind, Option.bind_eq_some_iff, Prod.exists]
  refine exists_congr fun item => exists_congr fun middle => and_congr_right fun _ => ?_
  split
  · next behind hcomma => simp [Option.bind_eq_some_iff, hcomma]
  · next behind hclose => simp [hclose, and_comm]
  · next hcomma hclose =>
      simp only [reduceCtorEq, false_iff]
      rintro (⟨behind, _, hstart, -⟩ | ⟨hstart, -⟩)
      · exact hcomma _ hstart
      · exact hclose _ hstart

theorem membersFrom?_succ_eq_some_iff :
    membersFrom? item? (steps + 1) cs = some (items, rest) ↔
      ∃ item middle, item? cs = some (item, middle) ∧
        ((∃ behind later, skipSpace middle = ',' :: behind ∧
            membersFrom? item? steps behind = some (later, rest) ∧ item :: later = items) ∨
          skipSpace middle = '\x7d' :: rest ∧ [item] = items) := by
  simp only [membersFrom?, Option.bind_eq_bind, Option.bind_eq_some_iff, Prod.exists]
  refine exists_congr fun item => exists_congr fun middle => and_congr_right fun _ => ?_
  split
  · next behind hcomma => simp [Option.bind_eq_some_iff, hcomma]
  · next behind hclose => simp [hclose, and_comm]
  · next hcomma hclose =>
      simp only [reduceCtorEq, false_iff]
      rintro (⟨behind, _, hstart, -⟩ | ⟨hstart, -⟩)
      · exact hcomma _ hstart
      · exact hclose _ hstart

end

/-! ## Passing over -/

/-- How many steps a run may still take: two for each character, and one more into a bracket. -/
def Passing.stepsLeft : Passing → List Char → Nat
  | .first, cs => 2 * cs.length + 1
  | .value, cs | .behind, cs => 2 * cs.length

/-- A run comes from one place to another, in steps that the text between them allows. -/
def Passes (start : Passing) (outer : List Bracket) (cs : List Char) (stop : Passing)
    (still : List Bracket) (rest : List Char) : Prop :=
  ∃ steps, steps + stop.stepsLeft rest ≤ start.stepsLeft cs ∧
    ∀ more, passFrom? (steps + more) start outer cs = passFrom? more stop still rest

/-- The characters of a bracket. -/
def Bracket.opening : Bracket → Char
  | .square => '['
  | .brace => '\x7b'

def Bracket.closing : Bracket → Char
  | .square => ']'
  | .brace => '\x7d'

namespace Passes

variable {start middle stop : Passing} {outer inner still : List Bracket}
  {cs behind rest : List Char}

theorem trans (hfirst : Passes start outer cs middle inner behind)
    (hsecond : Passes middle inner behind stop still rest) :
    Passes start outer cs stop still rest := by
  obtain ⟨first, hfirstLeft, hfirst⟩ := hfirst
  obtain ⟨second, hsecondLeft, hsecond⟩ := hsecond
  refine ⟨first + second, by omega, fun more => ?_⟩
  rw [Nat.add_assoc, hfirst, hsecond]

/-- One step, which may not come for free. -/
theorem step (hleft : stop.stepsLeft rest < start.stepsLeft cs)
    (h : ∀ more, passFrom? (more + 1) start outer cs = passFrom? more stop still rest) :
    Passes start outer cs stop still rest :=
  ⟨1, by omega, fun more => by rw [Nat.add_comm, h]⟩

variable (outer)

theorem opens (bracket : Bracket) (h : skipSpace cs = bracket.opening :: rest) :
    Passes .value outer cs .first (bracket :: outer) rest := by
  have hlt := length_of_skipSpace h
  refine step (by simp only [Passing.stepsLeft]; omega) fun more => ?_
  cases bracket <;> simp only [passFrom?, h, Bracket.opening]

theorem closes (bracket : Bracket) (hstart : start ≠ .value)
    (h : skipSpace cs = bracket.closing :: rest) :
    Passes start (bracket :: outer) cs .behind outer rest := by
  have hlt := length_of_skipSpace h
  cases start with
  | value => exact absurd rfl hstart
  | first =>
      refine step (by simp only [Passing.stepsLeft]; omega) fun more => ?_
      cases bracket <;> simp only [passFrom?, h, Bracket.closing]
  | behind =>
      refine step (by simp only [Passing.stepsLeft]; omega) fun more => ?_
      cases bracket <;> simp only [passFrom?, h, Bracket.closing]

theorem scalar (hstart : ∀ c ∈ ['[', '\x7b'], (skipSpace cs).head? ≠ some c)
    (h : passScalar? (skipSpace cs) = some rest) (hlt : rest.length < cs.length) :
    Passes .value outer cs .behind outer rest := by
  refine step ?_ fun more => ?_
  · simp only [Passing.stepsLeft]
    omega
  · rw [passFrom?]
    split
    · next heq => exact absurd (congrArg List.head? heq) (hstart '[' (by simp))
    · next heq => exact absurd (congrArg List.head? heq) (hstart '\x7b' (by simp))
    · rw [h]

theorem passFrom?_value_skipSpace (steps : Nat) (cs : List Char) :
    passFrom? steps .value outer (skipSpace cs) = passFrom? steps .value outer cs := by
  cases steps with
  | zero => rfl
  | succ steps => simp only [passFrom?, skipSpace_skipSpace]

theorem firstItem (h : ∀ behind, skipSpace cs ≠ ']' :: behind) :
    Passes .first (.square :: outer) cs .value (.square :: outer) cs := by
  refine step (by simp only [Passing.stepsLeft]; omega) fun more => ?_
  conv_lhs => unfold passFrom?
  split
  · next heq => exact absurd heq (h _)
  · next hbracket _ => cases hbracket
  · exact passFrom?_value_skipSpace _ more cs

theorem nextItem (h : skipSpace cs = ',' :: rest) :
    Passes .behind (.square :: outer) cs .value (.square :: outer) rest := by
  have hlt := length_of_skipSpace h
  refine step (by simp only [Passing.stepsLeft]; omega) fun more => ?_
  simp only [passFrom?, h]

theorem firstMember {key : String} (h : key? cs = some (key, rest)) :
    Passes .first (.brace :: outer) cs .value (.brace :: outer) rest := by
  obtain ⟨⟨behind, hquote⟩, hpass, hlt⟩ := passKey?_of_key? h outer
  refine step (by simp only [Passing.stepsLeft]; omega) fun more => ?_
  conv_lhs => unfold passFrom?
  split
  · next hbracket _ => cases hbracket
  · next hclose =>
      rw [hquote] at hclose
      cases hclose
  · have hagain : passKey? (.brace :: outer) (skipSpace cs) = some rest := by
      simpa [passKey?] using hpass
    rw [hagain]

theorem nextMember {key : String} (hcomma : skipSpace cs = ',' :: behind)
    (h : key? behind = some (key, rest)) :
    Passes .behind (.brace :: outer) cs .value (.brace :: outer) rest := by
  have hlt := length_of_skipSpace hcomma
  obtain ⟨-, hpass, hkey⟩ := passKey?_of_key? h []
  refine step (by simp only [Passing.stepsLeft]; omega) fun more => ?_
  simp only [passFrom?, hcomma, hpass]

end Passes

/-! ### What is read is passed over -/

/-- A run stops where a reader of values stops. -/
def IsPassed (item? : Reader Json) : Prop :=
  ∀ ⦃cs rest : List Char⦄ ⦃item : Json⦄ (outer : List Bracket),
    item? cs = some (item, rest) → Passes .value outer cs .behind outer rest

theorem IsPassed.items {item? : Reader Json} (h : IsPassed item?) (outer : List Bracket)
    {steps : Nat} {cs rest : List Char} {items : List Json}
    (hitems : itemsFrom? item? steps cs = some (items, rest)) :
    Passes .value (.square :: outer) cs .behind outer rest := by
  induction steps generalizing cs items with
  | zero => cases hitems
  | succ steps ih =>
      obtain ⟨item, middle, hitem, ⟨behind, later, hcomma, hlater, -⟩ | ⟨hclose, -⟩⟩ :=
        itemsFrom?_succ_eq_some_iff.mp hitems
      · exact ((h _ hitem).trans (.nextItem outer hcomma)).trans (ih hlater)
      · exact (h _ hitem).trans (.closes outer .square (by decide) hclose)

theorem IsPassed.members {value? : Reader Json} (h : IsPassed value?) (outer : List Bracket)
    {steps : Nat} {cs rest : List Char} {members : Fields}
    (hmembers : membersFrom? (member? value?) steps cs = some (members, rest)) :
    ∃ key behind, key? cs = some (key, behind) ∧
      Passes .value (.brace :: outer) behind .behind outer rest := by
  induction steps generalizing cs members with
  | zero => cases hmembers
  | succ steps ih =>
      obtain ⟨member, middle, hmember, hrest⟩ := membersFrom?_succ_eq_some_iff.mp hmembers
      simp only [member?, Option.bind_eq_bind, Option.bind_eq_some_iff, Prod.exists] at hmember
      obtain ⟨key, first, hkey, value, second, hvalue, hpair⟩ := hmember
      cases hpair
      refine ⟨key, first, hkey, (h _ hvalue).trans ?_⟩
      rcases hrest with ⟨behind, later, hcomma, hlater, -⟩ | ⟨hclose, -⟩
      · obtain ⟨next, start, hnext, hpasses⟩ := ih hlater
        exact (Passes.nextMember outer hcomma hnext).trans hpasses
      · exact .closes outer .brace (by decide) hclose

theorem IsPassed.array {item? : Reader Json} (h : IsPassed item?) (outer : List Bracket)
    {cs rest : List Char} {items : List Json}
    (hitems : arrayItems? item? cs = some (items, rest)) :
    Passes .first (.square :: outer) cs .behind outer rest := by
  unfold arrayItems? at hitems
  split at hitems
  · next behind hclose =>
      cases hitems
      exact .closes outer .square (by decide) hclose
  · next hopen => exact (Passes.firstItem outer hopen).trans (h.items outer hitems)

theorem IsPassed.object {value? : Reader Json} (h : IsPassed value?) (outer : List Bracket)
    {cs rest : List Char} {members : Fields}
    (hmembers : objectMembers? (member? value?) cs = some (members, rest)) :
    Passes .first (.brace :: outer) cs .behind outer rest := by
  unfold objectMembers? at hmembers
  split at hmembers
  · next behind hclose =>
      cases hmembers
      exact .closes outer .brace (by decide) hclose
  · obtain ⟨key, behind, hkey, hpasses⟩ := h.members outer hmembers
    exact (Passes.firstMember outer hkey).trans hpasses

theorem isPassed_value? (depth : Nat) : IsPassed (value? depth) := by
  -- The items of a value are read with a smaller depth, and that is what the induction is on.
  induction depth using Nat.strongRecOn with
  | ind depth ih =>
      intro cs rest item outer h
      cases readsAs_of_value? h with
      | null hstart hword =>
          have hlt := length_of_skipSpace hstart
          have hle := length_of_afterWord? hword
          exact .scalar outer (by simp [hstart]) (by rw [hstart]; exact hword) (by omega)
      | scalar hscalar hstart hpass hlt =>
          exact .scalar outer (fun c hc => hstart c (List.mem_cons_of_mem _ hc)) hpass hlt
      | @array deeper behind items hdepth hstart hitems =>
          have hdeeper := ih deeper (by omega)
          exact (Passes.opens outer .square hstart).trans (hdeeper.array outer hitems)
      | @object deeper behind members hdepth hstart hmembers =>
          have hdeeper := ih deeper (by omega)
          exact (Passes.opens outer .brace hstart).trans (hdeeper.object outer hmembers)

/-- Where the reader reads a value, passing over stops behind it. -/
theorem pass?_of_value? {depth : Nat} {cs rest : List Char} {value : Json}
    (h : value? depth cs = some (value, rest)) : pass? cs = some rest := by
  obtain ⟨steps, hleft, hpasses⟩ := isPassed_value? depth [] h
  simp only [Passing.stepsLeft] at hleft
  obtain ⟨more, hmore⟩ : ∃ more, 2 * cs.length + 2 = steps + (more + 1) :=
    ⟨2 * cs.length + 1 - steps, by omega⟩
  rw [pass?, hmore, hpasses, passFrom?]

end MeshConsole.Json
