import MeshConsole.Table.Basic
import MeshConsole.Table.NaturalOrder

/-!
# Sorting a table

A table is sorted by one of its columns, in the natural order of the cells' contents. Only the order
of the rows changes, and rows that compare equal keep their order.
-/

namespace MeshConsole.Table

/-- The index of the column with the given key; the first column stands in for an unknown key. -/
def columnIndex (columns : List Column) (key : String) : Nat :=
  (columns.findIdx? fun column => column.key == key).getD 0

/-- The column that a key names: the first one that has the key, or the first of all if none has. -/
def IsColumnOf (columns : List Column) (key : String) (index : Nat) : Prop :=
  ((columns[index]?).map Column.key = some key ∧
    ∀ earlier ∈ columns.take index, earlier.key ≠ key) ∨
  (index = 0 ∧ ∀ column ∈ columns, column.key ≠ key)

instance (columns : List Column) (key : String) (index : Nat) :
    Decidable (IsColumnOf columns key index) :=
  inferInstanceAs (Decidable (_ ∨ _))

theorem isColumnOf_columnIndex (columns : List Column) (key : String) :
    IsColumnOf columns key (columnIndex columns key) := by
  unfold columnIndex
  cases hfound : columns.findIdx? fun column => column.key == key with
  | none =>
      have hnone := List.findIdx?_eq_none_iff.mp hfound
      exact .inr ⟨rfl, fun column hcolumn => by simpa using hnone column hcolumn⟩
  | some index =>
      obtain ⟨hlength, hkey, hfirst⟩ := List.findIdx?_eq_some_iff_getElem.mp hfound
      refine .inl ⟨?_, fun earlier hearlier => ?_⟩
      · rw [Option.getD_some, List.getElem?_eq_getElem hlength]
        exact congrArg some (by simpa using hkey)
      · obtain ⟨position, hposition, rfl⟩ := List.mem_take_iff_getElem.mp hearlier
        have hbefore : position < index := by
          rw [Option.getD_some] at hposition
          omega
        simpa using hfirst position hbefore

/-- The content of a row's cell. A missing cell counts as empty. -/
def cellContent (index : Nat) (row : Row) : List Char :=
  ((row[index]?).map Cell.content).getD []

theorem cellContent_of_getElem? {index : Nat} {row : Row} {cell : Cell}
    (h : row[index]? = some cell) : cellContent index row = cell.content := by
  unfold cellContent
  rw [h]
  rfl

theorem cellContent_of_length_le {index : Nat} {row : Row} (h : row.length ≤ index) :
    cellContent index row = [] := by
  unfold cellContent
  rw [List.getElem?_eq_none h]
  rfl

/-- Orders two rows by their cells of one column. -/
def compareRows (index : Nat) (a b : Row) : Ordering :=
  NaturalOrder.compareTexts (cellContent index a) (cellContent index b)

/-- Rows sorted by their cells of one column. -/
def sortRows (index : Nat) (rows : List Row) : List Row :=
  rows.mergeSort fun a b => compareRows index a b != .gt

/-- A table sorted by the column of the given key. -/
def sortBy (key : String) (table : Table) : Table :=
  { table with rows := sortRows (columnIndex table.id.columns key) table.rows }

end MeshConsole.Table
