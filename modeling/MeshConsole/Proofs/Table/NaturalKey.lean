import MeshConsole.Proofs.Decimal.Magnitude
import MeshConsole.Proofs.Table.Chunks
import MeshConsole.Proofs.Text.Lexicographic
import Mathlib.Data.Sum.Order

/-!
# The natural order as an order of keys

The key of a text has an entry for each of its longest runs: the number that a run of digits stands
for, or the lower-case characters of another run.

    text ──runs──▶ runs ──keyOfRun──▶ key

Keys are ordered as lists are, entries with all numbers in front of all texts. Comparing two texts
chunk by chunk gives the order of their keys (`compareTexts_naturalKey`): each comparison on the way
down gives the order of what its chunks, runs or characters stand for, and a comparison of lists by
their first difference inherits that (`compares_compareLex`).

A number inside a text is an entry of its own. So of two texts that are equal up to a number its
value decides, whatever stands behind it (`compareTexts_of_numbers`).
-/

namespace MeshConsole

namespace NaturalOrder

/-! ## Digits -/

theorem isDigit_of_mem_significant {cs : List Char} (h : ∀ c ∈ cs, c.isDigit = true) :
    ∀ c ∈ significant cs, c.isDigit = true :=
  fun c hc => h c ((List.dropWhile_sublist _).subset hc)

theorem head?_significant_ne (cs : List Char) : (significant cs).head? ≠ some '0' := by
  intro hhead
  have hnot := List.head?_dropWhile_not (· == '0') cs
  rw [show (cs.dropWhile (· == '0')).head? = some '0' from hhead] at hnot
  cases hnot

/-- Zeros in front do not count. -/
theorem digitsValue_significant (cs : List Char) :
    Decimal.digitsValue (significant cs) = Decimal.digitsValue cs := by
  induction cs with
  | nil => rfl
  | cons c cs ih =>
      unfold significant at ih ⊢
      rw [List.dropWhile_cons]
      split
      · next hzero =>
          obtain rfl : c = '0' := beq_iff_eq.mp hzero
          rw [ih, Decimal.digitsValue_cons]
          simp
      · rfl

/-- Runs of digits are compared by value. -/
theorem compareDigits_compares {a b : List Char} (ha : ∀ c ∈ a, c.isDigit = true)
    (hb : ∀ c ∈ b, c.isDigit = true) :
    (compareDigits a b).Compares (Decimal.digitsValue a) (Decimal.digitsValue b) := by
  have ha := isDigit_of_mem_significant ha
  have hb := isDigit_of_mem_significant hb
  rw [← digitsValue_significant a, ← digitsValue_significant b]
  unfold compareDigits
  cases hlength : compare (significant a).length (significant b).length with
  | lt =>
      exact Decimal.digitsValue_lt_of_length_lt ha hb (head?_significant_ne b)
        (Nat.compare_eq_lt.mp hlength)
  | gt =>
      exact Decimal.digitsValue_lt_of_length_lt hb ha (head?_significant_ne a)
        (Nat.compare_eq_gt.mp hlength)
  | eq =>
      exact Decimal.comparePoints_compares_digitsValue (Nat.compare_eq_eq.mp hlength) ha hb

/-! ## Keys -/

/-- What a run stands for: a number, or a text in lower case. Every number comes before every
text. -/
abbrev RunKey := Nat ⊕ₗ List Char

/-- What a run stands for, by its characters. -/
def keyOfRun (run : List Char) : RunKey :=
  if run.all Char.isDigit then toLex (.inl (Decimal.digitsValue run))
  else toLex (.inr (Text.lowercase run))

/-- What the longest runs of a text stand for, in order. Keys are ordered lexicographically. -/
def naturalKey (cs : List Char) : List RunKey := (runs cs).map keyOfRun

/-- What a chunk stands for, by its kind. -/
def Chunk.key : Chunk → RunKey
  | .digits run => toLex (.inl (Decimal.digitsValue run))
  | .text run => toLex (.inr (Text.lowercase run))

/-- The characters of a chunk say of which kind it is. -/
theorem Chunk.IsRun.keyOfRun {chunk : Chunk} (h : chunk.IsRun) :
    keyOfRun chunk.run = chunk.key := by
  unfold NaturalOrder.keyOfRun
  rw [h.all_isDigit]
  cases chunk <;> rfl

/-- The key of a text from its chunks. -/
theorem naturalKey_eq_map_chunks (cs : List Char) : naturalKey cs = (chunks cs).map Chunk.key := by
  have hcut := isCut_chunks cs
  unfold naturalKey
  rw [← hcut.map_run, List.map_map]
  exact List.map_congr_left fun chunk hchunk => (hcut.isRun chunk hchunk).keyOfRun

/-- Chunks are compared as what they stand for is ordered. -/
theorem compareChunk_compares {a b : Chunk} (ha : a.IsRun) (hb : b.IsRun) :
    (compareChunk a b).Compares a.key b.key := by
  cases a with
  | digits x =>
      cases b with
      | digits y =>
          exact (Sum.Lex.inl_strictMono).compares.mpr (compareDigits_compares ha.kind hb.kind)
      | text y => exact Sum.Lex.inl_lt_inr _ _
  | text x =>
      cases b with
      | digits y => exact Sum.Lex.inl_lt_inr _ _
      | text y =>
          exact (Sum.Lex.inr_strictMono).compares.mpr
            (Text.comparePoints_compares (Text.lowercase x) (Text.lowercase y))

/-- Texts are compared as their keys are ordered. -/
theorem compareTexts_compares (a b : List Char) :
    (compareTexts a b).Compares (naturalKey a) (naturalKey b) := by
  rw [naturalKey_eq_map_chunks, naturalKey_eq_map_chunks]
  exact compares_compareLex fun x hx y hy =>
    compareChunk_compares ((isCut_chunks a).isRun x hx) ((isCut_chunks b).isRun y hy)

/-- **The natural order.** Two texts are compared as their keys are ordered. So the comparison is a
total preorder, and texts compare equal if and only if they have the same key. -/
theorem compareTexts_naturalKey :
    (∀ a b : List Char,
      (compareTexts a b = .lt ↔ naturalKey a < naturalKey b) ∧
      (compareTexts a b = .eq ↔ naturalKey a = naturalKey b) ∧
      (compareTexts a b = .gt ↔ naturalKey b < naturalKey a)) ∧
    (∀ a : List Char, compareTexts a a = .eq) ∧
    (∀ a b : List Char, compareTexts b a = (compareTexts a b).swap) ∧
    ∀ a b c : List Char,
      compareTexts a b ≠ .gt → compareTexts b c ≠ .gt → compareTexts a c ≠ .gt := by
  have hkeys := compareTexts_compares
  refine ⟨fun a b => ⟨(hkeys a b).eq_lt, (hkeys a b).eq_eq, (hkeys a b).eq_gt⟩,
    fun a => (hkeys a a).eq_eq.mpr rfl, fun a b => ?_, fun a b c hab hbc => ?_⟩
  · exact (hkeys b a).inj (hkeys a b).swap
  · have hle : naturalKey a ≤ naturalKey b := (hkeys a b).ne_gt.mp hab
    have hle' : naturalKey b ≤ naturalKey c := (hkeys b c).ne_gt.mp hbc
    exact (hkeys a c).ne_gt.mpr (hle.trans hle')

/-- Case and zeros in front do not count, and a number comes before every other run. -/
theorem compareTexts_naturalKey_mixed :
    let a := "Port007".toList
    let b := "pORT7".toList
    let c := "port10/a".toList
    naturalKey a = [toLex (.inr "port".toList), toLex (.inl 7)] ∧
      naturalKey a = naturalKey b ∧ naturalKey b < naturalKey c ∧
      compareTexts a b ≠ .gt ∧ compareTexts b c ≠ .gt ∧ compareTexts a c ≠ .gt := by
  intro a b c
  obtain ⟨horder, -, -, htrans⟩ := compareTexts_naturalKey
  have hab : compareTexts a b = .eq := by decide +kernel
  have hbc : compareTexts b c = .lt := by decide +kernel
  have hle : compareTexts a b ≠ .gt := by simp [hab]
  have hle' : compareTexts b c ≠ .gt := by simp [hbc]
  exact ⟨by decide +kernel, (horder a b).2.1.mp hab, (horder b c).1.mp hbc, hle, hle',
    htrans a b c hle hle'⟩

/-! ## Numbers inside texts -/

/-- Digits that are a run of their own between two texts. -/
structure IsNumberBetween (before digits behind : List Char) : Prop where
  ne_nil : digits ≠ []
  isDigit : ∀ c ∈ digits, c.isDigit = true
  before : ∀ c ∈ before.getLast?, c.isDigit = false
  behind : ∀ c ∈ behind.head?, c.isDigit = false

instance (before digits behind : List Char) : Decidable (IsNumberBetween before digits behind) :=
  decidable_of_iff
    (digits.isEmpty = false ∧ digits.all Char.isDigit = true ∧
      before.getLast?.all (!·.isDigit) = true ∧ behind.head?.all (!·.isDigit) = true) <| by
    simp only [List.isEmpty_eq_false_iff, List.all_eq_true, Option.all_eq_true, Bool.not_eq_true']
    exact ⟨fun ⟨hne, hdigits, hbefore, hbehind⟩ => ⟨hne, hdigits, hbefore, hbehind⟩,
      fun h => ⟨h.ne_nil, h.isDigit, h.before, h.behind⟩⟩

namespace IsNumberBetween

variable {before digits behind : List Char}

/-- The digits are one of the longest runs, and the others are those of the two texts. -/
theorem runs_eq (h : IsNumberBetween before digits behind) :
    runs (before ++ (digits ++ behind)) = runs before ++ digits :: runs behind := by
  have hfront : ∀ c ∈ before.getLast?, ∀ d ∈ (digits ++ behind).head?, sameKind c d = false := by
    intro c hc d hd
    rw [List.head?_append_of_ne_nil _ h.ne_nil] at hd
    rw [sameKind_eq_false_iff, h.before c hc, h.isDigit d (List.mem_of_mem_head? hd)]
    decide
  have hback : ∀ c ∈ digits.getLast?, ∀ d ∈ behind.head?, sameKind c d = false := by
    intro c hc d hd
    rw [sameKind_eq_false_iff, h.behind d hd, h.isDigit c (List.mem_of_mem_getLast? hc)]
    decide
  have hrun : digits.IsChain fun c d => sameKind c d = true :=
    (List.pairwise_of_forall_mem_list fun c hc d hd => by
      rw [sameKind_iff, h.isDigit c hc, h.isDigit d hd]).isChain
  unfold runs
  rw [List.splitBy_append hfront, List.splitBy_append hback,
    List.splitBy_of_isChain h.ne_nil hrun]
  rfl

/-- The number is one entry of the key. -/
theorem naturalKey_eq (h : IsNumberBetween before digits behind) :
    naturalKey (before ++ (digits ++ behind)) =
      naturalKey before ++ toLex (.inl (Decimal.digitsValue digits)) :: naturalKey behind := by
  have hkey : keyOfRun digits = toLex (.inl (Decimal.digitsValue digits)) :=
    if_pos (List.all_eq_true.mpr h.isDigit)
  unfold naturalKey
  rw [h.runs_eq, List.map_append, List.map_cons, hkey]

end IsNumberBetween

/-- **Numbers inside texts.** Two texts that are equal up to numbers of different values compare as
these values, whatever follows them and however many zeros stand in front of their digits. -/
theorem compareTexts_of_numbers {before x y behind behind' : List Char}
    (hx : IsNumberBetween before x behind) (hy : IsNumberBetween before y behind')
    (hne : Decimal.digitsValue x ≠ Decimal.digitsValue y) :
    compareTexts (before ++ (x ++ behind)) (before ++ (y ++ behind')) =
      compare (Decimal.digitsValue x) (Decimal.digitsValue y) := by
  have hvalues := (compare_iff (Decimal.digitsValue x) (Decimal.digitsValue y)).mp rfl
  have hdiffer : compare (Decimal.digitsValue x) (Decimal.digitsValue y) ≠ .eq :=
    mt Nat.compare_eq_eq.mp hne
  have hkeys := compareTexts_compares (before ++ (x ++ behind)) (before ++ (y ++ behind'))
  rw [hx.naturalKey_eq, hy.naturalKey_eq] at hkeys
  -- The entries in front are the same, so the two numbers are the first difference of the keys.
  refine hkeys.inj (compares_append _ (compares_cons_of_ne ?_ hdiffer _ _))
  exact Sum.Lex.inl_strictMono.compares.mpr hvalues

/-- An address with a smaller number comes first, although its digit is larger than the first digit
of the other one. -/
theorem compareTexts_of_numbers_addresses :
    IsNumberBetween "10.0.0.".toList "2".toList ":8080".toList ∧
      IsNumberBetween "10.0.0.".toList "010".toList [] ∧
      Decimal.digitsValue "2".toList ≠ Decimal.digitsValue "010".toList ∧
      compareTexts "10.0.0.2:8080".toList "10.0.0.010".toList = .lt := by
  have hx : IsNumberBetween "10.0.0.".toList "2".toList ":8080".toList := by decide +kernel
  have hy : IsNumberBetween "10.0.0.".toList "010".toList [] := by decide +kernel
  have hne : Decimal.digitsValue "2".toList ≠ Decimal.digitsValue "010".toList := by decide +kernel
  exact ⟨hx, hy, hne, compareTexts_of_numbers hx hy hne⟩

end NaturalOrder

end MeshConsole
