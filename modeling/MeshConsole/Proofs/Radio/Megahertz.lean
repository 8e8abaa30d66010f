import MeshConsole.Proofs.Decimal.Magnitude
import MeshConsole.Proofs.Json.Tokens
import MeshConsole.Proofs.Text.Trim
import MeshConsole.Proofs.Text.Utf8
import MeshConsole.Radio

/-!
# Megahertz in a text

A text gives a number of megahertz if, blanks at its ends aside, it begins with one:

    number = ["-"] digits        with no other digit behind it, and in range

The end of that number can be found by a scan over the bytes of the text. The scan stops between two
characters, so the bytes in front of its end are a text again, and that text is the number
(`decode?_take_scanEnd`). The text of a radio begins with its frequency, which is read back from it.
-/

namespace MeshConsole

open Decimal Text

/-! ## Numbers -/

/-- A text is a number: digits, behind a minus sign if it is negative. -/
def Decimal.Spells (cs : List Char) (n : Int) : Prop :=
  ∃ negative digits, cs = signed negative digits ∧ digits ≠ [] ∧
    (∀ d ∈ digits, d.isDigit = true) ∧
    n = if negative then -(digitsValue digits : Int) else digitsValue digits

namespace Decimal

theorem natural?_eq_some_iff {digits : List Char} {n : Nat} :
    natural? digits = some n ↔
      digits ≠ [] ∧ (∀ d ∈ digits, d.isDigit = true) ∧ digitsValue digits = n := by
  unfold natural?
  cases digits with
  | nil => simp
  | cons d digits => simp [and_assoc]

theorem digitRun_append {digits rest : List Char} (hdigits : ∀ d ∈ digits, d.isDigit = true)
    (hrest : ∀ c ∈ rest.head?, c.isDigit = false) : digitRun (digits ++ rest) = digits := by
  have hnone : rest.takeWhile Char.isDigit = [] := by
    cases rest with
    | nil => rfl
    | cons c rest => simp [hrest c rfl]
  rw [digitRun, List.takeWhile_append_of_pos hdigits, hnone, List.append_nil]

theorem isDigit_of_mem_digitRun {cs : List Char} {c : Char} (h : c ∈ digitRun cs) :
    c.isDigit = true := List.mem_takeWhile_imp h

theorem digitRun_append_afterDigits (cs : List Char) : digitRun cs ++ afterDigits cs = cs :=
  List.takeWhile_append_dropWhile

theorem not_isDigit_of_head?_afterDigits {cs : List Char} {c : Char}
    (h : c ∈ (afterDigits cs).head?) : c.isDigit = false :=
  Text.eq_false_of_head?_dropWhile h

theorem signed_append (negative : Bool) (digits rest : List Char) :
    signed negative digits ++ rest = signed negative (digits ++ rest) := by
  cases negative <;> rfl

/-- A text with its sign taken off, if it has one. -/
theorem exists_signed (cs : List Char) :
    ∃ negative rest, cs = signed negative rest ∧ (negative = false → '-' ∉ rest.head?) := by
  by_cases h : '-' ∈ cs.head?
  · obtain ⟨rest, hrest⟩ := List.head?_eq_some_iff.mp h
    exact ⟨true, rest, hrest, fun hfalse => nomatch hfalse⟩
  · exact ⟨false, cs, rfl, fun _ => h⟩

/-- Digits have no sign among them, so the sign in front of them can be told apart. -/
theorem signed_inj {negative negative' : Bool} {digits digits' : List Char}
    (hdigits : ∀ d ∈ digits, d.isDigit = true) (hother : ∀ d ∈ digits', d.isDigit = true) :
    signed negative digits = signed negative' digits' ↔
      negative = negative' ∧ digits = digits' := by
  have hminus : '-'.isDigit ≠ true := by decide
  cases negative <;> cases negative' <;> simp only [signed, if_true, Bool.false_eq_true, if_false]
  · simp
  · refine iff_of_false (fun h => hminus (hdigits '-' ?_)) (by simp)
    rw [h]
    exact List.mem_cons_self
  · refine iff_of_false (fun h => hminus (hother '-' ?_)) (by simp)
    rw [← h]
    exact List.mem_cons_self
  · simp

/-- Digits do not begin with a sign. -/
theorem minus_not_mem_head?_append {digits : List Char} (hne : digits ≠ [])
    (hdigits : ∀ d ∈ digits, d.isDigit = true) (rest : List Char) :
    '-' ∉ (digits ++ rest).head? := by
  rw [List.head?_append_of_ne_nil _ hne]
  intro h
  have hdigit := hdigits '-' (List.mem_of_head? h)
  revert hdigit
  decide

theorem spells_integer (n : Int) : Spells (integer n) n := by
  refine ⟨decide (n < 0), natural n.natAbs, ?_, ?_, fun d => Json.isDigit_of_mem_natural, ?_⟩
  · unfold integer signed
    simp only [decide_eq_true_eq]
  · obtain ⟨d, digits, hdigits, -⟩ := Json.natural_eq_cons n.natAbs
    rw [hdigits]
    exact List.cons_ne_nil d digits
  · rw [Json.digitsValue_natural]
    simp only [decide_eq_true_eq]
    omega

end Decimal

namespace Radio

/-! ## The reader -/

theorem inRange?_eq_some_iff {n m : Int} :
    inRange? n = some m ↔ n = m ∧ leastMegahertz ≤ m ∧ m ≤ mostMegahertz := by
  unfold inRange?
  rw [Option.ite_none_right_eq_some, Option.some_inj]
  constructor
  · rintro ⟨h, rfl⟩
    exact ⟨rfl, h⟩
  · rintro ⟨rfl, h⟩
    exact ⟨h, rfl⟩

variable {cs rest : List Char} {negative : Bool} {n : Int}

theorem textMegahertz?_of_signed (h : trimChars cs = signed negative rest)
    (hsign : negative = false → '-' ∉ rest.head?) :
    textMegahertz? cs = (natural? (digitRun rest)).bind fun n =>
      inRange? (if negative then -(n : Int) else n) := by
  unfold textMegahertz?
  rw [h]
  cases negative with
  | true => rfl
  | false =>
      cases rest with
      | nil => rfl
      | cons c rest =>
          have hc : c ≠ '-' := fun heq => hsign rfl (congrArg some heq)
          simp [signed, hc]

/-- Of what is left behind the sign, the digits at its beginning are read. -/
theorem textMegahertz?_eq_some_iff (h : trimChars cs = signed negative rest)
    (hsign : negative = false → '-' ∉ rest.head?) :
    textMegahertz? cs = some n ↔
      Spells (signed negative (digitRun rest)) n ∧ leastMegahertz ≤ n ∧ n ≤ mostMegahertz := by
  rw [textMegahertz?_of_signed h hsign, Option.bind_eq_some_iff]
  constructor
  · rintro ⟨m, hm, hn⟩
    obtain ⟨hne, hdigits, rfl⟩ := natural?_eq_some_iff.mp hm
    obtain ⟨rfl, hrange⟩ := inRange?_eq_some_iff.mp hn
    exact ⟨⟨negative, digitRun rest, rfl, hne, hdigits, rfl⟩, hrange⟩
  · rintro ⟨⟨negative', digits, heq, hne, hdigits, hn⟩, hrange⟩
    obtain ⟨rfl, rfl⟩ := (signed_inj (fun _ => isDigit_of_mem_digitRun) hdigits).mp heq
    exact ⟨digitsValue (digitRun rest), natural?_eq_some_iff.mpr ⟨hne, hdigits, rfl⟩,
      inRange?_eq_some_iff.mpr ⟨hn.symm, hrange⟩⟩

theorem textMegahertz?_eq_some_iff_exists :
    textMegahertz? cs = some n ↔
      (∃ front rest, trimChars cs = front ++ rest ∧ Spells front n ∧
        ∀ c ∈ rest.head?, c.isDigit = false) ∧ leastMegahertz ≤ n ∧ n ≤ mostMegahertz := by
  constructor
  · intro h
    obtain ⟨negative, rest, htrim, hsign⟩ := exists_signed (trimChars cs)
    obtain ⟨hspells, hrange⟩ := (textMegahertz?_eq_some_iff htrim hsign).mp h
    refine ⟨⟨signed negative (digitRun rest), afterDigits rest, ?_, hspells,
      fun c => not_isDigit_of_head?_afterDigits⟩, hrange⟩
    rw [htrim, signed_append, digitRun_append_afterDigits]
  · rintro ⟨⟨_, rest, htrim, ⟨negative, digits, rfl, hne, hdigits, hn⟩, hend⟩, hrange⟩
    rw [signed_append] at htrim
    rw [textMegahertz?_eq_some_iff htrim fun _ => minus_not_mem_head?_append hne hdigits rest,
      digitRun_append hdigits hend]
    exact ⟨⟨negative, digits, rfl, hne, hdigits, hn⟩, hrange⟩

/-! ## The end of the number -/

/-- Where a scan over the bytes of a text stops that looks for the end of a number: at the first
character that is neither a digit nor a minus sign at the very beginning. -/
def scanEnd (offset : Nat) : List Char → Nat
  | [] => offset
  | c :: cs =>
    if c.isDigit || (offset == 0 && c == '-') then scanEnd (offset + c.utf8Size) cs else offset

theorem scanEnd_of_pos {offset : Nat} (h : 0 < offset) (cs : List Char) :
    scanEnd offset cs = offset + (encode (digitRun cs)).length := by
  induction cs generalizing offset with
  | nil => rfl
  | cons c cs ih =>
      have hoffset : (offset == 0) = false := beq_false_of_ne (Nat.ne_of_gt h)
      rw [scanEnd, hoffset, Bool.false_and, Bool.or_false, digitRun, List.takeWhile_cons]
      split
      · rw [ih (Nat.lt_add_right _ h), length_encode_cons, Nat.add_assoc]
        rfl
      · rfl

theorem scanEnd_signed (hsign : negative = false → '-' ∉ rest.head?) :
    scanEnd 0 (signed negative rest) = (encode (signed negative (digitRun rest))).length := by
  cases negative with
  | true =>
      show scanEnd 1 rest = _
      rw [scanEnd_of_pos Nat.one_pos, signed, if_pos rfl, length_encode_cons]
      rfl
  | false =>
      cases rest with
      | nil => rfl
      | cons c rest =>
          have hc : (c == '-') = false := beq_false_of_ne fun heq => hsign rfl (congrArg some heq)
          show scanEnd 0 (c :: rest) = (encode (digitRun (c :: rest))).length
          rw [scanEnd, hc, Bool.and_false, Bool.or_false, digitRun, List.takeWhile_cons]
          split
          · rw [Nat.zero_add, scanEnd_of_pos c.utf8Size_pos, length_encode_cons]
            rfl
          · rfl

/-- The bytes in front of the end of the scan are those of whole characters. -/
theorem decode?_take_scanEnd (hsign : negative = false → '-' ∉ rest.head?) :
    decode? ((encode (signed negative rest)).take (scanEnd 0 (signed negative rest))) =
      some (signed negative (digitRun rest)) := by
  have hcut : signed negative rest = signed negative (digitRun rest) ++ afterDigits rest := by
    rw [signed_append, digitRun_append_afterDigits]
  rw [scanEnd_signed hsign]
  conv_lhs => rw [hcut]
  rw [encode_append, List.take_left, decode?_encode]

/-! ## The text of a radio -/

end Radio

theorem Text.isBlank_of_isDigit {c : Char} (h : c.isDigit = true) : isBlank c = false := by
  obtain ⟨hleast, hmost⟩ := Decimal.toNat_of_isDigit h
  have hranges : ∀ range ∈ blankRanges, range.2 < 48 ∨ 57 < range.1 := by decide
  unfold isBlank
  rw [List.any_eq_false]
  intro range hrange
  rw [Bool.and_eq_true, Nat.ble_eq, Nat.ble_eq]
  have hapart := hranges range hrange
  omega

theorem Decimal.endsClear_integer_append (n : Int) :
    Text.EndsClear Text.isBlank (integer n ++ " MHz".toList) := by
  obtain ⟨c, cs, hinteger, hc⟩ := Json.integer_eq_cons n
  constructor
  · rw [hinteger]
    rintro x ⟨⟩
    rcases hc with hdigit | rfl
    · exact Text.isBlank_of_isDigit hdigit
    · decide
  · intro x hx
    rw [List.getLast?_append_of_ne_nil _ (by decide)] at hx
    cases hx
    decide

/-- The text of a radio begins with its frequency. -/
theorem Radio.exists_summary {radio : Radio} {frequency : Int}
    (h : radio.frequency = some frequency) :
    ∃ rest, radio.summary.toList = Decimal.integer frequency ++ " MHz".toList ++ rest := by
  unfold summary
  rw [h, String.toList_ofList]
  exact Text.exists_trimEnds_append (Decimal.endsClear_integer_append frequency) (by simp) _

namespace Radio

/-- The text of a radio has no blanks at its ends. -/
theorem trimChars_summary (radio : Radio) :
    trimChars radio.summary.toList = radio.summary.toList := by
  have hclear : EndsClear isBlank radio.summary.toList := by
    unfold summary
    rw [String.toList_ofList]
    exact endsClear_trimEnds isBlank _
  have htrim := trimEnds_append (List.forall_mem_nil _) hclear (List.forall_mem_nil _)
  rwa [List.nil_append, List.append_nil] at htrim

theorem textMegahertz?_summary {radio : Radio} {frequency : Int}
    (h : radio.frequency = some frequency) (hleast : leastMegahertz ≤ frequency)
    (hmost : frequency ≤ mostMegahertz) :
    textMegahertz? radio.summary.toList = some frequency := by
  obtain ⟨rest, hrest⟩ := exists_summary h
  refine textMegahertz?_eq_some_iff_exists.mpr ⟨⟨integer frequency, " MHz".toList ++ rest, ?_,
    spells_integer frequency, ?_⟩, hleast, hmost⟩
  · rw [trimChars_summary, hrest, List.append_assoc]
  · rintro c ⟨⟩
    decide

/-- **Megahertz in a text.** A text gives a number of megahertz if and only if, without the blanks
at its ends, it begins with that number, which is in range, and no other digit follows. The end of
the number is found by a scan over the bytes; the bytes in front of it are a text, and the number is
all of that text. So the frequency of a radio is read back from the text of the radio. -/
theorem megahertz_text_iff :
    (∀ s : String,
      let t := (trim s).toList
      (∀ n, megahertz? (.text s) = some n ↔
        (∃ front rest, t = front ++ rest ∧ Spells front n ∧ ∀ c ∈ rest.head?, c.isDigit = false) ∧
          leastMegahertz ≤ n ∧ n ≤ mostMegahertz) ∧
      ∃ front, decode? ((encode t).take (scanEnd 0 t)) = some front ∧
        ∀ n, megahertz? (.text s) = some n ↔
          Spells front n ∧ leastMegahertz ≤ n ∧ n ≤ mostMegahertz) ∧
    ∀ (radio : Radio) (frequency : Int), radio.frequency = some frequency →
      leastMegahertz ≤ frequency → frequency ≤ mostMegahertz →
        megahertz? (.text radio.summary) = some frequency := by
  refine ⟨?_, fun radio frequency => textMegahertz?_summary⟩
  intro s t
  have htrim : t = trimChars s.toList := String.toList_ofList
  obtain ⟨negative, rest, hsigned, hsign⟩ := exists_signed t
  refine ⟨fun n => ?_, signed negative (digitRun rest), ?_, fun n => ?_⟩
  · rw [htrim]
    exact textMegahertz?_eq_some_iff_exists
  · rw [hsigned]
    exact decode?_take_scanEnd hsign
  · exact textMegahertz?_eq_some_iff (htrim.symm.trans hsigned) hsign

/-- A text that goes on behind its number with characters of three bytes, one whose number is too
large by one, and the radio of the least frequency. -/
theorem megahertz_text_iff_bounds :
    (∃ front rest, (trim " -5500€7").toList = front ++ rest ∧ Spells front (-5500) ∧
      ∀ c ∈ rest.head?, c.isDigit = false) ∧
    megahertz? (.text " -5500€7") = some (-5500) ∧
    megahertz? (.text "9223372036854775808") = none ∧
    megahertz? (.text (Radio.mk (some leastMegahertz) none none).summary) =
      some leastMegahertz := by
  obtain ⟨htext, hsummary⟩ := megahertz_text_iff
  have hread : (∃ front rest, (trim " -5500€7").toList = front ++ rest ∧ Spells front (-5500) ∧
      ∀ c ∈ rest.head?, c.isDigit = false) ∧
        leastMegahertz ≤ -5500 ∧ (-5500 : Int) ≤ mostMegahertz := by
    have htext : integer (-5500) = "-5500".toList := by decide +kernel
    refine ⟨⟨"-5500".toList, "€7".toList, by decide +kernel, htext ▸ spells_integer (-5500), ?_⟩,
      by decide⟩
    rintro c ⟨⟩
    decide
  refine ⟨hread.1, ((htext " -5500€7").1 (-5500)).mpr hread, by decide +kernel, ?_⟩
  exact hsummary _ _ rfl (by decide) (by decide)

end Radio

end MeshConsole
