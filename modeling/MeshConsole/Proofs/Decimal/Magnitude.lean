import MeshConsole.Decimal.Reader
import MeshConsole.Proofs.Text.Order
import Mathlib.Algebra.Group.Nat.Defs
import Mathlib.Order.Monotone.Basic

/-!
# Digits in the order of their values

A digit weighs a power of ten that is larger than all that can stand behind it:

    digitsValue cs < 10 ^ cs.length ≤ digitsValue (c :: cs)        for digits c ≠ '0' and cs

So digits without a zero in front are ordered by their number first. Of equally many digits those
are larger which are larger at the first difference, whether or not zeros stand in front
(`comparePoints_compares_digitsValue`).
-/

namespace MeshConsole.Decimal

theorem toNat_of_isDigit {c : Char} (h : c.isDigit = true) : 48 ≤ c.toNat ∧ c.toNat ≤ 57 := by
  simp only [Char.isDigit, Bool.and_eq_true, decide_eq_true_eq] at h
  exact h

theorem digitsValue_cons (c : Char) (cs : List Char) :
    digitsValue (c :: cs) = 10 ^ cs.length * (c.toNat - 48) + digitsValue cs := by
  unfold digitsValue
  rw [← Nat.ofDigitChars_eq_foldl, ← Nat.ofDigitChars_eq_foldl, Nat.ofDigitChars_cons,
    Nat.ofDigitChars_eq_ofDigitChars_zero, Nat.mul_zero, Nat.zero_add]
  rfl

/-- A number has at most as many digits as it is written with. -/
theorem digitsValue_lt_pow {cs : List Char} (h : ∀ c ∈ cs, c.isDigit = true) :
    digitsValue cs < 10 ^ cs.length := by
  induction cs with
  | nil => decide
  | cons c cs ih =>
      have hc := toNat_of_isDigit (h c List.mem_cons_self)
      have hcs := ih fun d hd => h d (List.mem_cons_of_mem c hd)
      have hweight : 10 ^ cs.length * (c.toNat - 48) ≤ 10 ^ cs.length * 9 :=
        Nat.mul_le_mul_left _ (by omega)
      rw [digitsValue_cons, List.length_cons, Nat.pow_succ]
      omega

/-- A number has as many digits as it is written with if no zero stands in front. -/
theorem pow_le_digitsValue_cons {c : Char} (hc : c.isDigit = true) (hzero : c ≠ '0')
    (cs : List Char) : 10 ^ cs.length ≤ digitsValue (c :: cs) := by
  have hrange := toNat_of_isDigit hc
  have hne : c.toNat ≠ 48 := fun h => hzero (Char.toNat_inj.mp h)
  rw [digitsValue_cons]
  calc 10 ^ cs.length = 10 ^ cs.length * 1 := (Nat.mul_one _).symm
    _ ≤ 10 ^ cs.length * (c.toNat - 48) := Nat.mul_le_mul_left _ (by omega)
    _ ≤ 10 ^ cs.length * (c.toNat - 48) + digitsValue cs := Nat.le_add_right _ _

/-- Fewer digits have the smaller value if the longer ones do not begin with a zero. -/
theorem digitsValue_lt_of_length_lt {cs ds : List Char} (hcs : ∀ c ∈ cs, c.isDigit = true)
    (hds : ∀ d ∈ ds, d.isDigit = true) (hzero : ds.head? ≠ some '0')
    (hlength : cs.length < ds.length) : digitsValue cs < digitsValue ds := by
  cases ds with
  | nil => cases hlength
  | cons d ds =>
      have hd : d ≠ '0' := fun h => hzero (congrArg some h)
      calc digitsValue cs < 10 ^ cs.length := digitsValue_lt_pow hcs
        _ ≤ 10 ^ ds.length := Nat.pow_le_pow_right (by decide) (Nat.le_of_lt_succ hlength)
        _ ≤ digitsValue (d :: ds) :=
          pow_le_digitsValue_cons (hds d List.mem_cons_self) hd ds

/-- What stands behind a digit weighs less than one more of that digit. -/
theorem digitsValue_cons_lt {c d : Char} {cs ds : List Char} (h : c.toNat < d.toNat)
    (hc : c.isDigit = true) (hcs : ∀ c ∈ cs, c.isDigit = true) (hlength : cs.length = ds.length) :
    digitsValue (c :: cs) < digitsValue (d :: ds) := by
  have hrange := toNat_of_isDigit hc
  have hrest := digitsValue_lt_pow hcs
  have hstep : 10 ^ cs.length * (c.toNat - 48 + 1) ≤ 10 ^ cs.length * (d.toNat - 48) :=
    Nat.mul_le_mul_left _ (by omega)
  rw [Nat.mul_succ] at hstep
  rw [digitsValue_cons, digitsValue_cons, ← hlength]
  omega

/-- Equally many digits are ordered by value as they are by code point. -/
theorem comparePoints_compares_digitsValue {cs ds : List Char} (hlength : cs.length = ds.length)
    (hcs : ∀ c ∈ cs, c.isDigit = true) (hds : ∀ d ∈ ds, d.isDigit = true) :
    (Text.comparePoints cs ds).Compares (digitsValue cs) (digitsValue ds) := by
  induction cs generalizing ds with
  | nil =>
      obtain rfl := List.length_eq_zero_iff.mp hlength.symm
      rfl
  | cons c cs ih =>
      cases ds with
      | nil => cases hlength
      | cons d ds =>
          have hlater : cs.length = ds.length := Nat.succ.inj hlength
          have hc := List.forall_mem_cons.mp hcs
          have hd := List.forall_mem_cons.mp hds
          rw [Text.comparePoints, List.compareLex_cons_cons]
          cases hfirst : Text.compareChars c d with
          | lt => exact digitsValue_cons_lt (Nat.compare_eq_lt.mp hfirst) hc.1 hc.2 hlater
          | gt => exact digitsValue_cons_lt (Nat.compare_eq_gt.mp hfirst) hd.1 hd.2 hlater.symm
          | eq =>
              obtain rfl := Text.compareChars_eq_iff.mp hfirst
              have hrest := ih hlater hc.2 hd.2
              -- The same digit stands in front of both, so it shifts both values alike.
              have hshift : StrictMono (10 ^ cs.length * (c.toNat - 48) + ·) :=
                fun _ _ h => Nat.add_lt_add_left h _
              rw [digitsValue_cons, digitsValue_cons, ← hlater]
              exact hshift.compares.mpr hrest

end MeshConsole.Decimal
