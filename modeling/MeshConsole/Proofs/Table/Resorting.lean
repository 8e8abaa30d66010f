import MeshConsole.Proofs.Table.Sorting
import Mathlib.Data.List.Basic

/-!
# Sorting what is sorted

A table that is sorted twice by one key is sorted by that key. A table that is sorted by one key and
then by another one keeps the first order where the second one has no preference: both sorts
together are the stable sort by the second key and then the first (`IsStableSort.then`).

    rows ──first key──▶ rows ──second key──▶ rows in the order of the second key, ties in that of
                                             the first, and ties of both as they were
-/

namespace MeshConsole

open Std

section

variable {α : Type} {cmp cmp' : α → α → Ordering}

/-- A sequence in order is its own stable sort. -/
theorem InOrder.isStableSort {xs : List α} (h : InOrder cmp xs) : IsStableSort cmp xs xs where
  perm := .refl xs
  inOrder := h
  stable _ := rfl

/-- The ties of both comparisons are the ties of one among the ties of the other. -/
theorem filter_compareLex (a : α) (xs : List α) :
    xs.filter (fun b => compareLex cmp' cmp a b == .eq) =
      (xs.filter fun b => cmp' a b == .eq).filter fun b => cmp a b == .eq := by
  rw [List.filter_filter]
  refine List.filter_congr fun b _ => ?_
  unfold compareLex
  cases cmp' a b <;> simp

/-- Two elements that stand one before the other in a stable sort and compare equal stand so in
the source. -/
theorem IsStableSort.sublist_of_eq [ReflCmp cmp] {source sorted : List α}
    (h : IsStableSort cmp source sorted) {a b : α} (hsub : [a, b].Sublist sorted)
    (heq : cmp a b = .eq) : [a, b].Sublist source := by
  have hclass := hsub.filter fun c => cmp a c == .eq
  rw [h.stable a, List.filter_cons_of_pos (by simp [ReflCmp.compare_self]),
    List.filter_cons_of_pos (by simp [heq]), List.filter_nil] at hclass
  exact hclass.trans List.filter_sublist

/-- Sorting a stable sort again gives the stable sort by both comparisons, the later one first. -/
theorem IsStableSort.then [ReflCmp cmp'] {source first second : List α}
    (h : IsStableSort cmp source first) (h' : IsStableSort cmp' first second) :
    IsStableSort (compareLex cmp' cmp) source second where
  perm := h'.perm.trans h.perm
  inOrder := by
    refine List.pairwise_iff_forall_sublist.mpr fun {a b} hsub => ?_
    have hle : cmp' a b ≠ .gt := List.pairwise_iff_forall_sublist.mp h'.inOrder hsub
    unfold compareLex
    cases hcmp : cmp' a b with
    | lt => simp
    | gt => exact absurd hcmp hle
    | eq =>
        -- A tie keeps its order in the first sort, and that is in order.
        exact List.pairwise_iff_forall_sublist.mp h.inOrder (h'.sublist_of_eq hsub hcmp)
  stable a := by
    rw [filter_compareLex, filter_compareLex, h'.stable a, List.filter_comm, h.stable a,
      List.filter_comm]

end

namespace Table

/-- **Sorting a table.** Sorting by a key gives the stable sort of the rows by the column of that
key, in the same table, and sorting again by it changes nothing. Sorting by one key and then by
another one gives the stable sort by the second key and then by the first. -/
theorem sortBy_stable :
    (∀ (table : Table) (key : String),
      let index := columnIndex table.id.columns key
      (table.sortBy key).id = table.id ∧
        IsStableSort (compareRows index) table.rows (table.sortBy key).rows ∧
        (table.sortBy key).sortBy key = table.sortBy key) ∧
    ∀ (table : Table) (first second : String),
      let order := columnIndex table.id.columns first
      let order' := columnIndex table.id.columns second
      IsStableSort (compareLex (compareRows order') (compareRows order)) table.rows
        ((table.sortBy first).sortBy second).rows := by
  constructor
  · intro table key index
    have hsorted := isStableSort_sortRows index table.rows
    have hagain : sortRows index (sortRows index table.rows) = sortRows index table.rows :=
      (isStableSort_sortRows index _).unique hsorted.inOrder.isStableSort
    exact ⟨rfl, hsorted, congrArg (Table.mk table.id) hagain⟩
  · intro table first second order order'
    exact (isStableSort_sortRows order table.rows).then (isStableSort_sortRows order' _)

/-- A trace with a line of blanks where an address should be, a row that ends before its address, and
an address between blanks. -/
def ragged : Table where
  id := .traceroute
  rows := [
    [⟨["10"], false⟩, ⟨["10.0.0.10"], true⟩], [⟨["2"], false⟩, ⟨["  "], true⟩], [⟨["3"], false⟩],
    [⟨["1"], false⟩, ⟨[" 10.0.0.9"], true⟩]]

/-- The key `ip` is that of the second column. A missing cell comes first, as an empty one does, and
blanks around a text do not count. A key that no column has stands for the first column. -/
theorem sortBy_stable_ragged :
    IsColumnOf ragged.id.columns "ip" 1 ∧ IsColumnOf ragged.id.columns "speed" 0 ∧
      (ragged.sortBy "ip").rows = [
        [⟨["2"], false⟩, ⟨["  "], true⟩], [⟨["3"], false⟩],
        [⟨["1"], false⟩, ⟨[" 10.0.0.9"], true⟩], [⟨["10"], false⟩, ⟨["10.0.0.10"], true⟩]] ∧
      (ragged.sortBy "speed").rows = [
        [⟨["1"], false⟩, ⟨[" 10.0.0.9"], true⟩], [⟨["2"], false⟩, ⟨["  "], true⟩],
        [⟨["3"], false⟩], [⟨["10"], false⟩, ⟨["10.0.0.10"], true⟩]] := by
  obtain ⟨-, hip, -⟩ := sortBy_stable.1 ragged "ip"
  obtain ⟨-, hspeed, -⟩ := sortBy_stable.1 ragged "speed"
  exact ⟨by decide, by decide, hip.unique (by decide +kernel), hspeed.unique (by decide +kernel)⟩

end Table

end MeshConsole
