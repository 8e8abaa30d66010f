import MeshConsole.Table.Sort
import MeshConsole.Proofs.Text.Order

/-!
# Sorting as a stable rearrangement

Rows are compared by the contents of their cells in one column, contents by their chunks, chunks by
value or by lower-case characters. Each of these comparisons is a total preorder, and each inherits
this from the one below it:

    points ──▶ runs ──▶ chunks ──▶ texts ──▶ rows

Sorting by such a comparison gives the one rearrangement that is in order and keeps the order of
rows that compare equal (`IsStableSort`, `IsStableSort.unique`).
-/

namespace MeshConsole

open Std

/-! ## Comparisons that are total preorders -/

namespace NaturalOrder

instance : TransCmp compareDigits :=
  inferInstanceAs (TransCmp (compareLex (compareOn fun digits => (significant digits).length)
    (Ordering.byKey significant Text.comparePoints)))

instance : TransCmp compareText :=
  inferInstanceAs (TransCmp (Ordering.byKey Text.lowercase Text.comparePoints))

/-- Digits come before other characters, and runs of one kind are compared by the order of that
kind. -/
instance : TransCmp compareChunk where
  eq_swap {a b} := by
    cases a with
    | digits x =>
        cases b with
        | digits y =>
            show compareDigits x y = (compareDigits y x).swap
            exact OrientedCmp.eq_swap
        | text y => rfl
    | text x =>
        cases b with
        | digits y => rfl
        | text y =>
            show compareText x y = (compareText y x).swap
            exact OrientedCmp.eq_swap
  isLE_trans {a b c} hab hbc := by
    cases a with
    | digits x =>
        cases c with
        | text z => rfl
        | digits z =>
            cases b with
            | text y => cases hbc
            | digits y =>
                have hxy : (compareDigits x y).isLE = true := hab
                have hyz : (compareDigits y z).isLE = true := hbc
                show (compareDigits x z).isLE = true
                exact TransCmp.isLE_trans hxy hyz
    | text x =>
        cases b with
        | digits y => cases hab
        | text y =>
            cases c with
            | digits z => cases hbc
            | text z =>
                have hxy : (compareText x y).isLE = true := hab
                have hyz : (compareText y z).isLE = true := hbc
                show (compareText x z).isLE = true
                exact TransCmp.isLE_trans hxy hyz

instance : TransCmp compareChunks := inferInstanceAs (TransCmp (List.compareLex compareChunk))

instance : TransCmp compareTexts :=
  inferInstanceAs (TransCmp (Ordering.byKey chunks compareChunks))

end NaturalOrder

instance (index : Nat) : TransCmp (Table.compareRows index) :=
  inferInstanceAs
    (TransCmp (Ordering.byKey (Table.cellContent index) NaturalOrder.compareTexts))

/-! ## Stable sorts -/

/-- A sequence that is in order. -/
def InOrder {α : Type} (cmp : α → α → Ordering) (xs : List α) : Prop :=
  xs.Pairwise fun a b => cmp a b ≠ .gt

instance {α : Type} (cmp : α → α → Ordering) (xs : List α) : Decidable (InOrder cmp xs) :=
  inferInstanceAs (Decidable (xs.Pairwise fun a b => cmp a b ≠ .gt))

/-- A sequence is the stable sort of its source: it has the elements of the source, they are in
order, and those that compare equal to any given one stand as they stand in the source. -/
structure IsStableSort {α : Type} (cmp : α → α → Ordering) (source sorted : List α) : Prop where
  perm : sorted.Perm source
  inOrder : InOrder cmp sorted
  stable : ∀ a, sorted.filter (fun b => cmp a b == .eq) = source.filter (fun b => cmp a b == .eq)

section

variable {α : Type} {cmp : α → α → Ordering}

/-- Sorting by a total preorder gives the stable sort. -/
theorem isStableSort_mergeSort [TransCmp cmp] (xs : List α) :
    IsStableSort cmp xs (xs.mergeSort fun a b => cmp a b != .gt) := by
  have htrans : ∀ a b c, (cmp a b != .gt) = true → (cmp b c != .gt) = true →
      (cmp a c != .gt) = true := by
    intro a b c hab hbc
    have hle : (cmp a b).isLE = true := Ordering.isLE_eq_not_beq_gt.trans hab
    have hle' : (cmp b c).isLE = true := Ordering.isLE_eq_not_beq_gt.trans hbc
    exact Ordering.isLE_eq_not_beq_gt.symm.trans (TransCmp.isLE_trans hle hle')
  have htotal : ∀ a b, ((cmp a b != .gt) || (cmp b a != .gt)) = true := by
    intro a b
    have hswap : cmp b a = (cmp a b).swap := OrientedCmp.eq_swap
    rw [hswap]
    cases cmp a b <;> rfl
  have hperm := List.mergeSort_perm xs fun a b => cmp a b != .gt
  refine ⟨hperm, ?_, ?_⟩
  · exact (List.pairwise_mergeSort htrans htotal xs).imp fun h => by simpa using h
  · intro a
    -- What compares equal to `a` is in order as it stands, so the sort keeps it as it stands.
    have hclass : (xs.filter fun b => cmp a b == .eq).Pairwise fun b c =>
        (cmp b c != .gt) = true := by
      apply List.pairwise_of_forall_mem_list
      intro b hb c hc
      have hab : cmp a b = .eq := by simpa using (List.mem_filter.mp hb).2
      have hac : cmp a c = .eq := by simpa using (List.mem_filter.mp hc).2
      have hbc : cmp b c = .eq := TransCmp.eq_trans (OrientedCmp.eq_symm hab) hac
      rw [hbc]
      rfl
    have hsub := (List.sublist_mergeSort htrans htotal hclass List.filter_sublist).filter
      fun b => cmp a b == .eq
    rw [List.filter_filter] at hsub
    simp only [Bool.and_self] at hsub
    exact (hsub.eq_of_length (hperm.filter _).length_eq.symm).symm

/-- The first element of a sequence in order is not greater than any of them. -/
theorem InOrder.head_le [TransCmp cmp] {a b : α} {as : List α} (h : InOrder cmp (a :: as))
    (hb : b ∈ a :: as) : cmp a b ≠ .gt := by
  rcases List.mem_cons.mp hb with rfl | hb
  · have hself : cmp b b = .eq := ReflCmp.compare_self
    rw [hself]
    decide
  · exact (List.pairwise_cons.mp h).1 b hb

/-- A source has one stable sort. -/
theorem IsStableSort.unique [TransCmp cmp] {source first second : List α}
    (h : IsStableSort cmp source first) (h' : IsStableSort cmp source second) :
    first = second := by
  have hperm : first.Perm second := h.perm.trans h'.perm.symm
  have hclass : ∀ a, first.filter (fun b => cmp a b == .eq) =
      second.filter (fun b => cmp a b == .eq) := fun a => (h.stable a).trans (h'.stable a).symm
  have hfirst := h.inOrder
  have hsecond := h'.inOrder
  clear h h'
  induction first generalizing second with
  | nil => exact hperm.nil_eq
  | cons a as ih =>
      cases second with
      | nil => exact absurd hperm.eq_nil (List.cons_ne_nil a as)
      | cons b bs =>
          -- Each head is least, so the heads compare equal and lead the same class.
          have hle : cmp a b ≠ .gt := hfirst.head_le (hperm.symm.subset List.mem_cons_self)
          have hge : cmp b a ≠ .gt := hsecond.head_le (hperm.subset List.mem_cons_self)
          have hab : cmp a b = .eq := by
            have hswap : cmp b a = (cmp a b).swap := OrientedCmp.eq_swap
            rw [hswap] at hge
            cases hcmp : cmp a b <;> simp [hcmp] at hle hge ⊢
          have hheads := hclass a
          rw [List.filter_cons_of_pos (by simp [ReflCmp.compare_self]),
            List.filter_cons_of_pos (by simp [hab])] at hheads
          obtain ⟨rfl, -⟩ := List.cons_eq_cons.mp hheads
          congr 1
          refine ih hperm.cons_inv (fun c => ?_) hfirst.of_cons hsecond.of_cons
          have hc := hclass c
          rw [List.filter_cons, List.filter_cons] at hc
          split at hc
          · exact (List.cons_eq_cons.mp hc).2
          · exact hc

/-- That ties keep their order is a matter of the elements themselves: what compares equal to
anything else compares equal to one of them, or there is none. -/
theorem isStableSort_iff [TransCmp cmp] {source sorted : List α} :
    IsStableSort cmp source sorted ↔
      sorted.Perm source ∧ InOrder cmp sorted ∧
        ∀ a ∈ source,
          sorted.filter (fun b => cmp a b == .eq) = source.filter (fun b => cmp a b == .eq) := by
  constructor
  · exact fun h => ⟨h.perm, h.inOrder, fun a _ => h.stable a⟩
  · rintro ⟨hperm, hinOrder, hstable⟩
    refine ⟨hperm, hinOrder, fun a => ?_⟩
    by_cases htie : ∃ b ∈ source, cmp a b = .eq
    · obtain ⟨b, hb, hab⟩ := htie
      have hclass (c : α) : cmp a c = cmp b c := TransCmp.congr_left hab
      simp only [hclass]
      exact hstable b hb
    · have hnone : source.filter (fun b => cmp a b == .eq) = [] :=
        List.filter_eq_nil_iff.mpr fun b hb => by simpa using fun hab => htie ⟨b, hb, hab⟩
      have hlength := (hperm.filter fun b => cmp a b == .eq).length_eq
      rw [hnone] at hlength ⊢
      exact List.eq_nil_of_length_eq_zero hlength

instance [DecidableEq α] [TransCmp cmp] (source sorted : List α) :
    Decidable (IsStableSort cmp source sorted) :=
  decidable_of_iff _ isStableSort_iff.symm

end

/-- The rows of a table are sorted stably. -/
theorem Table.isStableSort_sortRows (index : Nat) (rows : List Row) :
    IsStableSort (compareRows index) rows (sortRows index rows) :=
  isStableSort_mergeSort rows

end MeshConsole
