import MeshConsole.Text.Blank
import Mathlib.Data.List.Basic
import Mathlib.Data.List.TakeWhile

/-!
# Texts without their ends

Trimming drops elements from both ends for as long as they are of one kind. What is left neither
begins nor ends with such an element (`endsClear_trimEnds`), and whatever does neither is left as it
is, however much of that kind stands around it (`trimEnds_append`).
-/

namespace MeshConsole.Text

variable {α : Type} {drops : α → Bool}

/-- A sequence without the elements of a kind at both ends. -/
def trimEnds (drops : α → Bool) (xs : List α) : List α :=
  ((xs.dropWhile drops).reverse.dropWhile drops).reverse

/-- Neither the first nor the last element of a sequence is of a kind. -/
structure EndsClear (drops : α → Bool) (xs : List α) : Prop where
  head : ∀ x ∈ xs.head?, drops x = false
  last : ∀ x ∈ xs.getLast?, drops x = false

instance (drops : α → Bool) (xs : List α) : Decidable (EndsClear drops xs) :=
  decidable_of_iff (xs.head?.all (!drops ·) = true ∧ xs.getLast?.all (!drops ·) = true) <| by
    simp only [Option.all_eq_true, Bool.not_eq_true']
    exact ⟨fun h => ⟨h.1, h.2⟩, fun h => ⟨h.head, h.last⟩⟩

theorem eq_false_of_head?_dropWhile {xs : List α} {x : α}
    (h : (xs.dropWhile drops).head? = some x) : drops x = false := by
  have hhead := List.head?_dropWhile_not drops xs
  rw [h] at hhead
  exact hhead

theorem endsClear_trimEnds (drops : α → Bool) (xs : List α) :
    EndsClear drops (trimEnds drops xs) := by
  unfold trimEnds
  constructor
  · intro x hx
    rw [List.head?_reverse] at hx
    -- What is left at the end keeps the first element, which was not dropped before.
    obtain ⟨dropped, hdropped⟩ := (xs.dropWhile drops).reverse.dropWhile_suffix drops
    have hreverse := congrArg List.getLast? hdropped
    rw [List.getLast?_append, hx, List.getLast?_reverse] at hreverse
    exact eq_false_of_head?_dropWhile hreverse.symm
  · intro x hx
    rw [List.getLast?_reverse] at hx
    exact eq_false_of_head?_dropWhile hx

theorem mem_of_mem_trimEnds {xs : List α} {x : α} (h : x ∈ trimEnds drops xs) : x ∈ xs := by
  unfold trimEnds at h
  have hback := (List.dropWhile_sublist drops).subset (List.mem_reverse.mp h)
  exact (List.dropWhile_sublist drops).subset (List.mem_reverse.mp hback)

/-- Nothing is dropped from a sequence that does not begin with what is dropped. -/
theorem dropWhile_eq_self_of_head? {xs : List α} (h : ∀ x ∈ xs.head?, drops x = false) :
    xs.dropWhile drops = xs := by
  cases xs with
  | nil => rfl
  | cons x xs => rw [List.dropWhile_cons, h x rfl]; rfl

theorem trimEnds_append {front xs back : List α} (hfront : ∀ x ∈ front, drops x = true)
    (hxs : EndsClear drops xs) (hback : ∀ x ∈ back, drops x = true) :
    trimEnds drops (front ++ (xs ++ back)) = xs := by
  have hbackward : ∀ x ∈ xs.reverse.head?, drops x = false := by
    rw [List.head?_reverse]
    exact hxs.last
  unfold trimEnds
  rw [List.dropWhile_append_of_pos hfront]
  by_cases hnil : xs = []
  · subst hnil
    rw [List.nil_append, List.dropWhile_eq_nil_iff.mpr hback]
    rfl
  · have hforward : ∀ x ∈ (xs ++ back).head?, drops x = false := by
      rw [List.head?_append_of_ne_nil _ hnil]
      exact hxs.head
    rw [dropWhile_eq_self_of_head? hforward, List.reverse_append,
      List.dropWhile_append_of_pos fun x hx => hback x (List.mem_reverse.mp hx),
      dropWhile_eq_self_of_head? hbackward, List.reverse_reverse]

/-- A front part that neither begins nor ends with what is dropped stays, whatever stands behind. -/
theorem exists_trimEnds_append {xs : List α} (hxs : EndsClear drops xs) (hnil : xs ≠ [])
    (back : List α) : ∃ rest, trimEnds drops (xs ++ back) = xs ++ rest := by
  have hforward : ∀ x ∈ (xs ++ back).head?, drops x = false := by
    rw [List.head?_append_of_ne_nil _ hnil]
    exact hxs.head
  have hbackward : xs.reverse.dropWhile drops = xs.reverse := by
    apply dropWhile_eq_self_of_head?
    rw [List.head?_reverse]
    exact hxs.last
  unfold trimEnds
  rw [dropWhile_eq_self_of_head? hforward, List.reverse_append, List.dropWhile_append, hbackward]
  split
  · exact ⟨[], by simp⟩
  · exact ⟨_, by rw [List.reverse_append, List.reverse_reverse]⟩

end MeshConsole.Text
