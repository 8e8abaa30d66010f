/-!
# Order by code point

Texts are ordered character by character, a character by its code point, and a text comes before
its extensions. The bytes of the texts in UTF-8 are ordered in the same way.
-/

namespace MeshConsole.Text

/-- Orders two characters by code point. -/
def compareChars (a b : Char) : Ordering := compare a.toNat b.toNat

/-- Orders two texts by code point. -/
def comparePoints (a b : List Char) : Ordering := List.compareLex compareChars a b

/-- Orders two strings by code point. -/
def compareStrings (a b : String) : Ordering := comparePoints a.toList b.toList

@[simp] theorem compareChars_self (c : Char) : compareChars c c = .eq := by
  simp [compareChars]

/-- Characters of equal rank are equal. -/
theorem compareChars_eq_iff {a b : Char} : compareChars a b = .eq ↔ a = b := by
  constructor
  · intro h
    exact Char.toNat_inj.mp (Nat.compare_eq_eq.mp h)
  · rintro rfl
    simp

end MeshConsole.Text
