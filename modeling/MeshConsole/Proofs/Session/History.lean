import MeshConsole.Proofs.Dashboard.Regions
import MeshConsole.Proofs.Table.Sorting

/-!
# What the tables of a dashboard come from

A history lists the events that a dashboard's tables depend on, the latest one first: what was
loaded successfully, which traces the operator ran, and by which keys tables were sorted. It says
nothing of the dashboard itself. What a table shows is a function of the history:

    history ──source──▶ rows as they were rendered last
            ──key?────▶ key asked for last
            ──rows────▶ rows as they are shown

Loaded rows are brought into the order of the key, rows of a trace are not. So the rows of a loaded
table are always in the order of its key (`History.inOrder_rows`), those of a trace only if it was
sorted after they came.
-/

namespace MeshConsole

/-! ## Tables in the order of a key -/

namespace Table

theorem isStableSort_sortBy (id : TableId) (key : String) (rows : List Row) :
    IsStableSort (compareRows (columnIndex id.columns key)) rows
      ((Table.mk id rows).sortBy key).rows :=
  isStableSort_sortRows _ rows

theorem perm_sortBy? (key : Option String) (table : Table) :
    (table.sortBy? key).rows.Perm table.rows := by
  cases key with
  | none => exact .refl _
  | some key => exact (isStableSort_sortBy table.id key table.rows).perm

end Table

/-! ## Histories -/

/-- Something that the tables of a dashboard depend on. -/
inductive Event where
  /-- A status was loaded. -/
  | status (status : Status)
  /-- A node directory was loaded. -/
  | directory (directory : Directory)
  /-- Ports were loaded. -/
  | ports (ports : List Port)
  /-- A trace that the operator asked for began. -/
  | began
  /-- Such a trace had an output. -/
  | output (output : String)
  /-- The operator asked for an order of a table. -/
  | sorted (table : TableId) (key : String)

/-- Events, the latest one first. -/
abbrev History := List Event

namespace Event

/-- The directory that an event brings. -/
def directory? : Event → Option Directory
  | directory loaded => some loaded
  | _ => none

/-- The key by which an event sorts a table. -/
def key? (id : TableId) : Event → Option String
  | sorted table key => if id = table then some key else none
  | _ => none

/-- An event of a trace that the operator runs. -/
def isTrace : Event → Bool
  | began => true
  | output _ => true
  | _ => false

end Event

namespace History

/-- The directory that was loaded last. -/
def directory (history : History) : Option Directory := history.findSome? Event.directory?

/-- The key that was asked for last. -/
def key? (id : TableId) (history : History) : Option String := history.findSome? (Event.key? id)

/-- Whether the operator has run a trace. -/
def traced (history : History) : Bool := history.any Event.isTrace

end History

/-- The rows that an event brings for a table, as they come from its payload. Ports are shown with
the directory that was loaded before, and the trace towards the uplink gives way to the operator's.
-/
def Event.rendered? (earlier : History) : Event → TableId → Option (List Row)
  | .status loaded, .devices => some (Table.ofDevices loaded.radios loaded.devices).rows
  | .status loaded, .links => some (Table.ofLinks loaded.links).rows
  | .status loaded, .neighbors => some (Table.ofNeighbors loaded.neighbors).rows
  | .status loaded, .traceroute =>
    if (Trace.ofUplink loaded.traceToUplink).isEmpty || earlier.traced then none
    else some (Table.ofHops (Trace.ofUplink loaded.traceToUplink)).rows
  | .ports loaded, .connections => some (Table.ofPorts earlier.directory loaded).rows
  | .began, .traceroute => some []
  | .output text, .traceroute => some (Table.ofHops (Trace.ofOutput text)).rows
  | _, _ => none

/-- Whether new rows of a table are brought into the order that was asked for last. -/
def TableId.isRestored : TableId → Bool
  | .traceroute => false
  | _ => true

namespace History

/-- The rows of a table as they were rendered last. -/
def source (id : TableId) : History → List Row
  | [] => []
  | event :: earlier => (event.rendered? earlier id).getD (source id earlier)

/-- A table was not sorted since its rows were rendered last. -/
def isFresh (id : TableId) : History → Bool
  | [] => true
  | event :: earlier =>
    (event.rendered? earlier id).isSome || (event.key? id).isNone && isFresh id earlier

/-- The key that new rows of a table are sorted by. -/
def restored? (id : TableId) (history : History) : Option String :=
  if id.isRestored then history.key? id else none

/-- The rows of a table as they are shown. -/
def rows (id : TableId) : History → List Row
  | [] => []
  | event :: earlier =>
    match event.rendered? earlier id, event.key? id with
    | some rows, _ => ((Table.mk id rows).sortBy? (restored? id earlier)).rows
    | none, some key => ((Table.mk id (rows id earlier)).sortBy key).rows
    | none, none => rows id earlier

/-! ## One event more -/

section

variable {id : TableId} {event : Event} {earlier : History}

/-- An event brings rows for a table, or sorts it, or does not concern it. -/
theorem effect_cases (id : TableId) (event : Event) (earlier : History) :
    (∃ rendered, event.rendered? earlier id = some rendered ∧ event.key? id = none) ∨
      (∃ key, event.rendered? earlier id = none ∧ event.key? id = some key) ∨
      event.rendered? earlier id = none ∧ event.key? id = none := by
  cases event with
  | sorted table key =>
      right
      cases hkey : (Event.sorted table key).key? id with
      | some key => exact Or.inl ⟨key, rfl, rfl⟩
      | none => exact Or.inr ⟨rfl, rfl⟩
  | _ =>
      cases hrendered : Event.rendered? earlier _ id with
      | some rendered => exact Or.inl ⟨rendered, rfl, rfl⟩
      | none => exact Or.inr (Or.inr ⟨rfl, rfl⟩)

theorem key?_cons_of_some {key : String} (h : event.key? id = some key) :
    key? id (event :: earlier) = some key := by
  unfold key?
  rw [List.findSome?_cons, h]

theorem key?_cons_of_none (h : event.key? id = none) :
    key? id (event :: earlier) = key? id earlier := by
  unfold key?
  rw [List.findSome?_cons, h]

theorem restored?_cons_of_none (h : event.key? id = none) :
    restored? id (event :: earlier) = restored? id earlier := by
  unfold restored?
  rw [key?_cons_of_none h]

/-- New rows are shown in the order of the key that was asked for last, if they are restored. -/
theorem rows_cons_of_rendered {rendered : List Row}
    (h : event.rendered? earlier id = some rendered) :
    rows id (event :: earlier) =
      ((Table.mk id rendered).sortBy? (restored? id earlier)).rows := by
  simp only [rows, h]

theorem rows_cons_of_key {key : String} (hrendered : event.rendered? earlier id = none)
    (hkey : event.key? id = some key) :
    rows id (event :: earlier) = ((Table.mk id (rows id earlier)).sortBy key).rows := by
  simp only [rows, hrendered, hkey]

theorem rows_cons_of_none (hrendered : event.rendered? earlier id = none)
    (hkey : event.key? id = none) : rows id (event :: earlier) = rows id earlier := by
  simp only [rows, hrendered, hkey]

end

/-! ## Laws of a history -/

section

variable {id : TableId} {history : History}

/-- A table shows the rows that were rendered last, in some order. -/
theorem perm_rows (id : TableId) (history : History) :
    (rows id history).Perm (source id history) := by
  induction history with
  | nil => exact .nil
  | cons event earlier ih =>
      unfold source
      rcases effect_cases id event earlier with
        ⟨rendered, hrendered, -⟩ | ⟨key, hrendered, hkey⟩ | ⟨hrendered, hkey⟩
      · rw [rows_cons_of_rendered hrendered, hrendered]
        exact Table.perm_sortBy? _ _
      · rw [rows_cons_of_key hrendered hkey, hrendered]
        exact ((Table.isStableSort_sortBy id key _).perm).trans ih
      · rw [rows_cons_of_none hrendered hkey, hrendered]
        exact ih

/-- A table that was not sorted since its rows were rendered shows them in the order of the key by
which new rows are sorted. -/
theorem rows_of_isFresh (h : isFresh id history = true) :
    rows id history = ((Table.mk id (source id history)).sortBy? (restored? id history)).rows := by
  induction history with
  | nil =>
      unfold restored?
      split <;> rfl
  | cons event earlier ih =>
      unfold isFresh at h
      unfold source
      rcases effect_cases id event earlier with
        ⟨rendered, hrendered, hkey⟩ | ⟨key, hrendered, hkey⟩ | ⟨hrendered, hkey⟩
      · rw [rows_cons_of_rendered hrendered, restored?_cons_of_none hkey, hrendered]
        rfl
      · rw [hrendered, hkey] at h
        cases h
      · rw [hrendered, hkey] at h
        rw [rows_cons_of_none hrendered hkey, restored?_cons_of_none hkey, hrendered]
        exact ih h

/-- A table is in the order of the key that was asked for last if new rows are brought into that
order, or if it was sorted since its rows were rendered. -/
theorem inOrder_rows {key : String} (hkey : key? id history = some key)
    (h : id.isRestored = true ∨ isFresh id history = false) :
    InOrder (Table.compareRows (Table.columnIndex id.columns key)) (rows id history) := by
  induction history with
  | nil => cases hkey
  | cons event earlier ih =>
      unfold isFresh at h
      rcases effect_cases id event earlier with
        ⟨rendered, hrendered, hevent⟩ | ⟨asked, hrendered, hevent⟩ | ⟨hrendered, hevent⟩
      · -- Rows that have just come are in order only if they were brought into it.
        rw [key?_cons_of_none hevent] at hkey
        rw [hrendered] at h
        have hrestored : restored? id earlier = some key := by
          unfold restored?
          rw [if_pos (h.resolve_right (by simp)), hkey]
        rw [rows_cons_of_rendered hrendered, hrestored]
        exact (Table.isStableSort_sortBy id key rendered).inOrder
      · rw [key?_cons_of_some hevent] at hkey
        obtain rfl := Option.some.inj hkey
        rw [rows_cons_of_key hrendered hevent]
        exact (Table.isStableSort_sortBy id asked _).inOrder
      · rw [key?_cons_of_none hevent] at hkey
        rw [hrendered, hevent] at h
        rw [rows_cons_of_none hrendered hevent]
        exact ih hkey h

end

end History

end MeshConsole
