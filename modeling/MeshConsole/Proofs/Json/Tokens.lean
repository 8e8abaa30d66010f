import MeshConsole.Json.Printer
import MeshConsole.Json.Reader

/-!
# Tokens that were written

What the writer puts between two brackets, commas or colons is read back, whatever follows it:

    characters ──quote──▶ text in quotes ──quoted?──▶ the same characters
    whole number ──Number.write──▶ numeral ──numeral?, value?──▶ the same number

A text in quotes ends by itself (`quoted?_quote`). A numeral goes on as far as it can, so there the
character that follows matters: it must not continue the numeral (`NumeralEnds`). Every character
that the writer puts behind a value is such a one.
-/

namespace MeshConsole.Json

/-! ## Texts in quotes -/

theorem hexValue?_hexDigit {n : Nat} (h : n < 16) : hexValue? (hexDigit n) = some n := by
  have hall : ∀ n : Fin 16, hexValue? (hexDigit n) = some n.val := by decide
  exact hall ⟨n, h⟩

/-- An escape of four digits of which the first two are zero stands for a character below U+0100. -/
theorem unicodeEscape?_hexDigits {n : Nat} (h : n < 0x100) (rest : List Char) :
    unicodeEscape? ('0' :: '0' :: hexDigit (n / 16) :: hexDigit (n % 16) :: rest) =
      some (Char.ofNat n, rest) := by
  have hquad : hexQuad? ('0' :: '0' :: hexDigit (n / 16) :: hexDigit (n % 16) :: rest) =
      some (n, rest) := by
    have hzero : hexValue? '0' = some 0 := by decide
    have hhigh : hexValue? (hexDigit (n / 16)) = some (n / 16) := hexValue?_hexDigit (by omega)
    have hlow : hexValue? (hexDigit (n % 16)) = some (n % 16) := hexValue?_hexDigit (by omega)
    simp only [hexQuad?, hzero, hhigh, hlow, Option.bind_eq_bind, Option.bind_some]
    congr 2
    omega
  have hnotLow : ¬ isLowSurrogate n = true := by
    rw [isLowSurrogate, Bool.and_eq_true, Nat.ble_eq, Nat.ble_eq]
    omega
  have hnotHigh : ¬ isHighSurrogate n = true := by
    rw [isHighSurrogate, Bool.and_eq_true, Nat.ble_eq, Nat.ble_eq]
    omega
  rw [unicodeEscape?, hquad]
  simp [hnotLow, hnotHigh]

/-- A character that is written is read back, and what is written does not look like the closing
quote. -/
theorem quotedChar?_quoteChar (c : Char) (rest : List Char) :
    quotedChar? (quoteChar c ++ rest) = some (c, rest) ∧
      (quoteChar c ++ rest).head? ≠ some '"' := by
  unfold quoteChar
  split
  case h_8 hquote hbackslash _ _ _ _ _ =>
    split
    · next hcontrol =>
        refine ⟨?_, by simp⟩
        have hescape := unicodeEscape?_hexDigits (n := c.toNat) (by omega) rest
        rwa [Char.ofNat_toNat] at hescape
    · next hcontrol =>
        have hplain : isPlain c = true := by
          simp only [isPlain, Bool.and_eq_true, bne_iff_ne, ne_eq]
          exact ⟨⟨Nat.ble_eq.mpr (by omega), hquote⟩, hbackslash⟩
        refine ⟨?_, by simpa using hquote⟩
        rw [List.cons_append, List.nil_append, quotedChar?, if_pos hplain]
        · rintro behind rfl
          exact absurd rfl hbackslash
        · rintro letter behind rfl
          exact absurd rfl hbackslash
  all_goals exact ⟨rfl, by simp⟩

theorem length_quoteChar_pos (c : Char) : 0 < (quoteChar c).length := by
  unfold quoteChar
  split
  case h_8 => split <;> simp
  all_goals simp

theorem length_le_flatMap_quoteChar (cs : List Char) :
    cs.length ≤ (cs.flatMap quoteChar).length := by
  induction cs with
  | nil => simp
  | cons c cs ih =>
      have hpos := length_quoteChar_pos c
      rw [List.flatMap_cons, List.length_append, List.length_cons]
      omega

theorem quotedFrom?_flatMap_quoteChar (cs rest : List Char) {steps : Nat} (h : cs.length < steps)
    (seen : List Char) :
    quotedFrom? steps seen (cs.flatMap quoteChar ++ '"' :: rest) =
      some (seen.reverse ++ cs, rest) := by
  induction cs generalizing steps seen with
  | nil =>
      obtain ⟨more, rfl⟩ : ∃ more, steps = more + 1 := ⟨steps - 1, by simp at h; omega⟩
      rw [List.flatMap_nil, List.nil_append, List.append_nil]
      rfl
  | cons c cs ih =>
      obtain ⟨more, rfl⟩ : ∃ more, steps = more + 1 := ⟨steps - 1, by simp at h; omega⟩
      rw [List.length_cons, Nat.add_lt_add_iff_right] at h
      obtain ⟨hread, hhead⟩ := quotedChar?_quoteChar c (cs.flatMap quoteChar ++ '"' :: rest)
      rw [List.flatMap_cons, List.append_assoc, quotedFrom?, hread]
      · dsimp only
        rw [ih h, List.reverse_cons, List.append_assoc, List.singleton_append]
      · intro behind hquote
        exact hhead (by rw [hquote]; rfl)

/-- A text in quotes is read back from behind its opening quote. -/
theorem quoted?_quote (cs rest : List Char) :
    quoted? (cs.flatMap quoteChar ++ '"' :: rest) = some (cs, rest) := by
  have hlength := length_le_flatMap_quoteChar cs
  have hsteps : cs.length < (cs.flatMap quoteChar ++ '"' :: rest).length := by
    rw [List.length_append, List.length_cons]
    omega
  exact quotedFrom?_flatMap_quoteChar cs rest hsteps []

theorem quote_append (cs rest : List Char) :
    quote cs ++ rest = '"' :: (cs.flatMap quoteChar ++ '"' :: rest) := by
  simp [quote]

/-! ## Whole numbers -/

/-- What follows a numeral does not continue it. -/
def NumeralEnds (rest : List Char) : Prop :=
  ∀ c ∈ rest.head?, c.isDigit = false ∧ c ≠ '.' ∧ c ≠ 'e' ∧ c ≠ 'E'

theorem numeralEnds_nil : NumeralEnds [] := by simp [NumeralEnds]

theorem numeralEnds_cons {c : Char} {rest : List Char} :
    NumeralEnds (c :: rest) ↔ c.isDigit = false ∧ c ≠ '.' ∧ c ≠ 'e' ∧ c ≠ 'E' := by
  simp [NumeralEnds]

/-- The digits of a number begin with a zero only if there is no other digit. -/
theorem natural_eq_cons (n : Nat) :
    ∃ d digits, Decimal.natural n = d :: digits ∧ (d = '0' → digits = []) := by
  unfold Decimal.natural
  induction n using Nat.strongRecOn with
  | ind n ih =>
      rcases Nat.lt_or_ge n 10 with hsmall | hlarge
      · exact ⟨n.digitChar, [], Nat.toDigits_of_lt_base hsmall, fun _ => rfl⟩
      · obtain ⟨d, digits, hfront, hzero⟩ := ih (n / 10) (by omega)
        have hne : d ≠ '0' := by
          rintro rfl
          rw [hzero rfl] at hfront
          have hvalue := @Nat.ofDigitChars_ten_toDigits (n / 10)
          rw [hfront] at hvalue
          simp [Nat.ofDigitChars_cons, Nat.ofDigitChars_nil] at hvalue
          omega
        refine ⟨d, digits ++ [(n % 10).digitChar], ?_, fun h => absurd h hne⟩
        rw [Nat.toDigits_of_base_le (by omega) hlarge, hfront, List.cons_append]

theorem digitsValue_natural (n : Nat) : Decimal.digitsValue (Decimal.natural n) = n := by
  unfold Decimal.digitsValue Decimal.natural
  rw [← Nat.ofDigitChars_eq_foldl, Nat.ofDigitChars_ten_toDigits]

theorem isDigit_of_mem_natural {n : Nat} {c : Char} (h : c ∈ Decimal.natural n) :
    c.isDigit = true := Nat.isDigit_of_mem_toDigits (by omega) (by omega) h

theorem digitRun_natural (n : Nat) {rest : List Char} (h : NumeralEnds rest) :
    Decimal.digitRun (Decimal.natural n ++ rest) = Decimal.natural n := by
  have hrest : rest.takeWhile Char.isDigit = [] := by
    cases rest with
    | nil => rfl
    | cons c rest => simp [(numeralEnds_cons.mp h).1]
  rw [Decimal.digitRun, List.takeWhile_append_of_pos fun c hc => isDigit_of_mem_natural hc, hrest,
    List.append_nil]

theorem afterDigits_natural (n : Nat) {rest : List Char} (h : NumeralEnds rest) :
    Decimal.afterDigits (Decimal.natural n ++ rest) = rest := by
  rw [Decimal.afterDigits, List.dropWhile_append_of_pos fun c hc => isDigit_of_mem_natural hc]
  cases rest with
  | nil => rfl
  | cons c rest => simp [(numeralEnds_cons.mp h).1]

theorem wholePart?_natural (n : Nat) {rest : List Char} (h : NumeralEnds rest) :
    wholePart? (Decimal.natural n ++ rest) = some (Decimal.natural n, rest) := by
  obtain ⟨d, digits, hdigits, hzero⟩ := natural_eq_cons n
  rw [wholePart?, digitRun_natural n h, afterDigits_natural n h]
  split
  · next hnil => simp [hdigits] at hnil
  · next hlong =>
      rw [hdigits, List.cons.injEq] at hlong
      simp [hzero hlong.1] at hlong
  · rfl

theorem fractionPart?_of_numeralEnds {rest : List Char} (h : NumeralEnds rest) :
    fractionPart? rest = some (none, rest) := by
  unfold fractionPart?
  split
  · exact absurd rfl (numeralEnds_cons.mp h).2.1
  · rfl

theorem exponentPart?_of_numeralEnds {rest : List Char} (h : NumeralEnds rest) :
    exponentPart? rest = some (none, rest) := by
  cases rest with
  | nil => rfl
  | cons c rest =>
      obtain ⟨-, -, he, hE⟩ := numeralEnds_cons.mp h
      simp [exponentPart?, he, hE]

theorem minus_natural (n : Nat) (rest : List Char) :
    minus (Decimal.natural n ++ rest) = (false, Decimal.natural n ++ rest) := by
  obtain ⟨d, digits, hdigits, -⟩ := natural_eq_cons n
  have hdigit : d.isDigit = true := isDigit_of_mem_natural (n := n) (by simp [hdigits])
  rw [hdigits, List.cons_append, minus]
  rintro behind ⟨⟩
  cases hdigit

/-- An integer is one numeral, without fraction and exponent. -/
theorem numeral?_integer (n : Int) {rest : List Char} (h : NumeralEnds rest) :
    numeral? (Decimal.integer n ++ rest) =
      some (⟨decide (n < 0), Decimal.natural n.natAbs, none, none⟩, rest) := by
  have hminus : minus (Decimal.integer n ++ rest) =
      (decide (n < 0), Decimal.natural n.natAbs ++ rest) := by
    unfold Decimal.integer
    split
    · next hneg => simp [minus, hneg]
    · next hnonneg => rw [minus_natural, decide_eq_false hnonneg]
  simp only [numeral?, hminus, wholePart?_natural n.natAbs h, fractionPart?_of_numeralEnds h,
    exponentPart?_of_numeralEnds h, Option.bind_eq_bind, Option.bind_some]

/-- A whole number that fits 64 bits is read as itself. -/
theorem value?_of_whole (n : Whole) :
    Numeral.value? ⟨decide (n.val < 0), Decimal.natural n.val.natAbs, none, none⟩ =
      some (.whole n) := by
  obtain ⟨n, hleast, hend⟩ := n
  unfold Numeral.value?
  rw [digitsValue_natural]
  by_cases hneg : n < 0
  · obtain ⟨m, rfl⟩ : ∃ m : Nat, n = -m := ⟨n.natAbs, by omega⟩
    have hne : m ≠ 0 := by omega
    have hfits : m ≤ 0x8000000000000000 := by omega
    rw [Int.natAbs_neg, Int.natAbs_natCast, decide_eq_true hneg]
    simp [hne, Whole.negOfNat?, hfits]
  · obtain ⟨m, rfl⟩ : ∃ m : Nat, n = m := ⟨n.natAbs, by omega⟩
    have hfits : m < 0x10000000000000000 := by omega
    rw [Int.natAbs_natCast, decide_eq_false hneg]
    simp [Whole.ofNat?, hfits]

/-- The first character of an integer is a digit or the minus sign. -/
theorem integer_eq_cons (n : Int) :
    ∃ c cs, Decimal.integer n = c :: cs ∧ (c.isDigit = true ∨ c = '-') := by
  unfold Decimal.integer
  split
  · exact ⟨'-', _, rfl, Or.inr rfl⟩
  · obtain ⟨d, digits, hdigits, -⟩ := natural_eq_cons n.natAbs
    exact ⟨d, digits, hdigits, Or.inl (isDigit_of_mem_natural (n := n.natAbs) (by simp [hdigits]))⟩

end MeshConsole.Json
