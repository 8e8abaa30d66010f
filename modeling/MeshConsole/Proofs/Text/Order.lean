import MeshConsole.Text.Order
import Mathlib.Order.Defs.LinearOrder

/-!
# The order by code point is a linear order

Characters are ordered as their code points, texts lexicographically, and strings as the texts that
they hold. Each of these comparisons is a total preorder that takes no two different things for
equal, and each inherits this from the one before.
-/

namespace MeshConsole

open Std

/-! ## Total preorders -/

instance : TransCmp Text.compareChars := inferInstanceAs (TransCmp (compareOn Char.toNat))

instance : TransCmp Text.comparePoints :=
  inferInstanceAs (TransCmp (List.compareLex Text.compareChars))

instance : TransCmp Text.compareStrings where
  eq_swap {a b} := @OrientedCmp.eq_swap _ Text.comparePoints _ a.toList b.toList
  isLE_trans {a b c} := @TransCmp.isLE_trans _ Text.comparePoints _ a.toList b.toList c.toList

/-! ## Equality -/

instance : LawfulEqCmp Text.compareChars where
  compare_self := Text.compareChars_self _
  eq_of_compare := Text.compareChars_eq_iff.mp

instance : LawfulEqCmp Text.comparePoints :=
  inferInstanceAs (LawfulEqCmp (List.compareLex Text.compareChars))

theorem Text.compareStrings_eq_iff {a b : String} : compareStrings a b = .eq ↔ a = b := by
  unfold compareStrings
  rw [LawfulEqCmp.compare_eq_iff_eq, String.toList_inj]

end MeshConsole
