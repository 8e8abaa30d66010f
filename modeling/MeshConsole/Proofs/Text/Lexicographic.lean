import MeshConsole.Proofs.Text.Order
import MeshConsole.Text.Utf8
import Mathlib.Data.Char
import Mathlib.Data.List.Lex
import Mathlib.Order.Monotone.Basic

/-!
# Order by the first difference

Lists are ordered by their first difference, so a comparison of lists inherits the order that its
elements are compared by (`compares_compareLex`). Texts are ordered in this way by their characters,
and so are their bytes. In UTF-8 the two orders agree: the bytes of different characters differ
already before either of them ends, and there the greater character has the greater byte
(`encode_lt_encode`).
-/

namespace MeshConsole

/-! ## Comparisons by the first difference -/

/-- What lists have in common in front does not decide. -/
theorem compares_cons {α : Type} [LT α] {as bs : List α} {order : Ordering} (a : α)
    (h : order.Compares as bs) : order.Compares (a :: as) (a :: bs) := by
  cases order with
  | lt => exact List.cons_lt_cons_iff.mpr (.inr ⟨rfl, h⟩)
  | eq => exact congrArg (a :: ·) h
  | gt => exact List.cons_lt_cons_iff.mpr (.inr ⟨rfl, h⟩)

theorem compares_append {α : Type} [LT α] {as bs : List α} {order : Ordering} (front : List α)
    (h : order.Compares as bs) : order.Compares (front ++ as) (front ++ bs) := by
  induction front with
  | nil => exact h
  | cons a front ih => exact compares_cons a ih

/-- The first difference decides, whatever stands behind it. -/
theorem compares_cons_of_ne {α : Type} [LT α] {a b : α} {order : Ordering} (h : order.Compares a b)
    (hne : order ≠ .eq) (as bs : List α) : order.Compares (a :: as) (b :: bs) := by
  cases order with
  | lt => exact List.cons_lt_cons_iff.mpr (.inl h)
  | eq => exact absurd rfl hne
  | gt => exact List.cons_lt_cons_iff.mpr (.inl h)

/-- If a comparison gives the order of what the elements stand for, then the comparison of lists by
their first difference gives the order of the lists of that. -/
theorem compares_compareLex {α β : Type} [LT β] {cmp : α → α → Ordering} {key : α → β}
    {xs ys : List α} (h : ∀ x ∈ xs, ∀ y ∈ ys, (cmp x y).Compares (key x) (key y)) :
    (List.compareLex cmp xs ys).Compares (xs.map key) (ys.map key) := by
  induction xs generalizing ys with
  | nil =>
      cases ys with
      | nil => rfl
      | cons y ys => exact List.nil_lt_cons _ _
  | cons x xs ih =>
      cases ys with
      | nil => exact List.nil_lt_cons _ _
      | cons y ys =>
          have hfirst := h x List.mem_cons_self y List.mem_cons_self
          have hlater := ih fun a ha b hb =>
            h a (List.mem_cons_of_mem x ha) b (List.mem_cons_of_mem y hb)
          rw [List.compareLex_cons_cons, List.map_cons, List.map_cons]
          by_cases heq : cmp x y = .eq
          · -- Elements that compare equal stand for the same thing, so the rest decides.
            rw [heq] at hfirst ⊢
            have hkey : key x = key y := hfirst
            rw [hkey, Ordering.eq_then]
            exact compares_cons (key y) hlater
          · have hthen : (cmp x y).then (List.compareLex cmp xs ys) = cmp x y := by
              cases hcmp : cmp x y <;> first | rfl | exact absurd hcmp heq
            rw [hthen]
            exact compares_cons_of_ne hfirst heq _ _

/-- Texts are compared by code point as lists of characters are ordered. -/
theorem Text.comparePoints_compares (cs ds : List Char) :
    (comparePoints cs ds).Compares cs ds := by
  have hmono : StrictMono Char.toNat := fun _ _ h => h
  have hlist : (comparePoints cs ds).Compares (cs.map id) (ds.map id) :=
    compares_compareLex fun c _ d _ => hmono.compares.mp ((compare_iff c.toNat d.toNat).mp rfl)
  rwa [List.map_id, List.map_id] at hlist

namespace Text

/-! ## Bytes -/

/-- The bytes of two characters decide, whatever stands behind them. -/
theorem utf8EncodeChar_append_lt {c d : Char} (h : c < d) (as bs : List UInt8) :
    String.utf8EncodeChar c ++ as < String.utf8EncodeChar d ++ bs := by
  have hlt : c.val.toNat < d.val.toNat := h
  have hlast : d.val.toNat < 0x110000 := by
    rcases d.valid with h | h <;> omega
  unfold String.utf8EncodeChar
  dsimp only
  -- The first byte of a longer spelling is greater. Of equally long ones the digits in base 64 decide.
  split_ifs <;>
    simp only [List.cons_append, List.nil_append, List.cons_lt_cons_iff, UInt8.lt_iff_toNat_lt,
      ← UInt8.toNat_inj, UInt8.toNat_ofNat'] <;>
    simp (disch := omega) only [Nat.mod_eq_of_lt] <;>
    omega

/-- In UTF-8 texts are ordered as their bytes are. -/
theorem encode_lt_encode {cs ds : List Char} (h : cs < ds) : encode cs < encode ds := by
  induction h with
  | @nil d ds =>
      rw [encode_nil, encode_cons]
      obtain ⟨b, bs, hbytes⟩ := List.exists_cons_of_ne_nil (@String.utf8EncodeChar_ne_nil d)
      rw [hbytes]
      exact List.nil_lt_cons _ _
  | rel h => exact utf8EncodeChar_append_lt h _ _
  | @cons c cs ds _ ih =>
      have hlater : Ordering.lt.Compares (encode cs) (encode ds) := ih
      exact compares_append (String.utf8EncodeChar c) hlater

end Text

end MeshConsole
