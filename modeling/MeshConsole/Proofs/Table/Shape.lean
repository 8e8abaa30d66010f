import MeshConsole.Table.Render
import Mathlib.Data.List.Forall2

/-!
# The shape of rows

A row is rendered from one record (`TableId.Renders`), and the kind of a column says what its cell
holds of that record (`TableId.Renders.fits`):

    field     the text of the field that has the key of the column, if it has one
    text      one text, or none
    link      one text that is a link, or none
    pair      two texts
    several   any number of texts

No field has an empty text, so the cells of the first three kinds have no empty line. From this
follows what can be said of a row without a look at its record (`TableId.Shape`).
-/

namespace MeshConsole

open Json (Fields)

/-! ## Texts of values -/

theorem Text.ofList_ne_empty {cs : List Char} (h : cs ≠ []) : String.ofList cs ≠ "" := by
  intro hempty
  have htext := congrArg String.toList hempty
  rw [String.toList_ofList] at htext
  exact h htext

namespace Decimal

theorem integer_ne_nil (n : Int) : integer n ≠ [] := by
  unfold integer
  split
  · exact List.cons_ne_nil _ _
  · exact Nat.toDigits_ne_nil

theorem signed_ne_nil {cs : List Char} (h : cs ≠ []) (negative : Bool) :
    signed negative cs ≠ [] := by
  unfold signed
  split
  · exact List.cons_ne_nil _ _
  · exact h

theorem Scaled.positional_ne_nil (x : Scaled) : x.positional ≠ [] := by
  unfold positional
  dsimp only
  split
  · simp
  · split <;> simp

theorem Scaled.exponential_ne_nil (x : Scaled) (signedExponent : Bool) :
    x.exponential signedExponent ≠ [] := by
  unfold exponential
  simp

theorem Layout.write_ne_nil (layout : Layout) (x : Float) : layout.write x ≠ [] := by
  unfold write
  split
  · decide
  · exact signed_ne_nil (by decide) _
  · split
    · exact signed_ne_nil (by decide) _
    · apply signed_ne_nil
      split
      · exact Scaled.positional_ne_nil _
      · exact Scaled.exponential_ne_nil _ _

end Decimal

namespace Json

theorem Number.write_ne_nil (n : Number) : n.write ≠ [] := by
  cases n with
  | whole n => exact Decimal.integer_ne_nil n.val
  | float x => exact floatLayout.write_ne_nil x

/-- A value that counts as missing. -/
inductive IsFalsy : Json → Prop
  | null : IsFalsy .null
  | no : IsFalsy (.bool false)
  | blank : IsFalsy (.text "")
  | zero {n : Number} (h : n.isZero = true) : IsFalsy (.number n)

theorem cellText?_eq_none_iff {value : Json} : value.cellText? = none ↔ value.IsFalsy := by
  constructor
  · intro h
    cases value with
    | null => exact .null
    | bool value =>
        cases value with
        | false => exact .no
        | true => cases h
    | number n =>
        rw [cellText?] at h
        split at h
        · next hzero => exact .zero hzero
        · cases h
    | text s =>
        rw [cellText?] at h
        split at h
        · next hempty =>
            rw [String.isEmpty_iff.mp hempty]
            exact .blank
        · cases h
    | array items => cases h
    | object fields => cases h
  · intro h
    cases h with
    | null => rfl
    | no => rfl
    | blank => rfl
    | zero hzero =>
        rw [cellText?]
        exact if_pos hzero

/-- No value has an empty text. -/
theorem cellText?_ne_empty (value : Json) : value.cellText? ≠ some "" := by
  intro h
  cases value with
  | null => cases h
  | bool value =>
      rw [cellText?] at h
      split at h
      · exact absurd (Option.some.inj h) (by decide)
      · cases h
  | number n =>
      rw [cellText?] at h
      split at h
      · cases h
      · exact Text.ofList_ne_empty n.write_ne_nil (Option.some.inj h)
  | text s =>
      rw [cellText?] at h
      split at h
      · cases h
      · next hempty => exact hempty (String.isEmpty_iff.mpr (Option.some.inj h))
  | array items =>
      refine Text.ofList_ne_empty ?_ (Option.some.inj h)
      rw [compactChars]
      exact List.cons_ne_nil _ _
  | object fields =>
      refine Text.ofList_ne_empty ?_ (Option.some.inj h)
      rw [compactChars]
      exact List.cons_ne_nil _ _

namespace Fields

theorem text?_eq_none_iff {fields : Fields} {name : String} :
    fields.text? name = none ↔ ∀ value ∈ fields.lookup name, value.IsFalsy := by
  unfold text?
  rw [Option.bind_eq_none_iff]
  simp only [cellText?_eq_none_iff, Option.mem_def]

theorem text?_ne_empty (fields : Fields) (name : String) : fields.text? name ≠ some "" := by
  intro h
  obtain ⟨value, -, hvalue⟩ := Option.bind_eq_some_iff.mp h
  exact value.cellText?_ne_empty hvalue

end Fields

end Json

/-! ## Kinds of columns -/

/-- What the cells of a column hold. -/
inductive ColumnKind where
  | field
  | text
  | link
  | pair
  | several
deriving Repr, DecidableEq

namespace ColumnKind

/-- A cell holds what a column of the given kind and key shows of a record. -/
inductive Fits (fields : Fields) (key : String) : ColumnKind → Cell → Prop
  | field : Fits fields key .field (.ofText? (fields.text? key))
  | text (text : String) : Fits fields key .text (.ofText text)
  | link (text : String) : Fits fields key .link (.ofLink text)
  | pair (first second : String) : Fits fields key .pair (.ofLines [first, second])
  | several (lines : List String) : Fits fields key .several (.ofLines lines)

namespace Fits

variable {fields : Fields} {key : String} {kind : ColumnKind} {cell : Cell}

theorem link_iff (h : kind.Fits fields key cell) : cell.link = true ↔ kind = .link := by
  cases h <;> simp [Cell.ofText?, Cell.ofText, Cell.ofLink, Cell.ofLines]

theorem single_ofText (text : String) :
    (Cell.ofText text).lines.length ≤ 1 ∧ "" ∉ (Cell.ofText text).lines := by
  unfold Cell.ofText
  by_cases hempty : text.isEmpty = true
  · simp [hempty]
  · rw [if_neg hempty]
    refine ⟨Nat.le_refl 1, fun hmem => hempty ?_⟩
    rw [← List.mem_singleton.mp hmem]
    rfl

/-- A cell of a column that has one text at most. -/
theorem single (h : kind.Fits fields key cell) (hpair : kind ≠ .pair) (hseveral : kind ≠ .several) :
    cell.lines.length ≤ 1 ∧ "" ∉ cell.lines := by
  cases h with
  | field =>
      have hnonempty := fields.text?_ne_empty key
      unfold Cell.ofText?
      cases htext : fields.text? key with
      | none => exact ⟨Nat.zero_le 1, List.not_mem_nil⟩
      | some text =>
          refine ⟨Nat.le_refl 1, fun hmem => hnonempty ?_⟩
          rw [htext, List.mem_singleton.mp hmem]
  | text text => exact single_ofText text
  | link text => exact single_ofText text
  | pair first second => exact absurd rfl hpair
  | several lines => exact absurd rfl hseveral

/-- The cell of a field is empty if and only if the field is missing or falsy. -/
theorem lines_eq_nil_iff (h : kind.Fits fields key cell) (hfield : kind = .field) :
    cell.lines = [] ↔ ∀ value ∈ fields.lookup key, value.IsFalsy := by
  subst hfield
  cases h
  rw [← Fields.text?_eq_none_iff]
  unfold Cell.ofText?
  exact Option.toList_eq_nil_iff

theorem length_lines (h : kind.Fits fields key cell) (hpair : kind = .pair) :
    cell.lines.length = 2 := by
  subst hpair
  cases h
  rfl

end Fits

end ColumnKind

namespace TableId

/-- The kind of a table's column. -/
def kind : TableId → String → ColumnKind
  | .devices, "ipv4" => .pair
  | .devices, "wireless" => .text
  | .connections, "macs" => .several
  | .connections, "ips" => .several
  | .connections, "hostnames" => .several
  | .traceroute, "ip" => .link
  | .traceroute, "hostname" => .link
  | .traceroute, _ => .text
  | _, _ => .field

variable {id : TableId} {key : String}

theorem kind_eq_link_iff :
    id.kind key = .link ↔ id = .traceroute ∧ (key = "ip" ∨ key = "hostname") := by
  unfold kind
  split <;> simp_all

theorem kind_eq_pair_iff : id.kind key = .pair ↔ id = .devices ∧ key = "ipv4" := by
  unfold kind
  split <;> simp_all

theorem kind_eq_several_iff :
    id.kind key = .several ↔ id = .connections ∧ key ∈ ["macs", "ips", "hostnames"] := by
  unfold kind
  split <;> simp_all

/-- A column whose cells may have several lines. -/
def HasLines (id : TableId) (key : String) : Prop :=
  id = .devices ∧ key = "ipv4" ∨ id = .connections ∧ key ∈ ["macs", "ips", "hostnames"]

/-- A column that shows a field of its record. -/
def ShowsField (id : TableId) (key : String) : Prop :=
  id ≠ .traceroute ∧ ¬ id.HasLines key ∧ ¬ (id = .devices ∧ key = "wireless")

theorem kind_eq_field (h : id.ShowsField key) : id.kind key = .field := by
  obtain ⟨htraceroute, hlines, hwireless⟩ := h
  unfold HasLines at hlines
  unfold kind
  split <;> simp_all

end TableId

/-! ## Rows -/

/-- Every node that a directory knows has a name. -/
def Directory.IsNamed (directory : Directory) : Prop := ∀ entry ∈ directory.names, entry.2 ≠ ""

/-- The names of addresses stand beside the addresses, and at least one of them is known, or there
are none. -/
theorem Directory.hostnames_cases {directory : Option Directory}
    (hnamed : ∀ known ∈ directory, known.IsNamed) (ips : List String) :
    hostnames directory ips = [] ∨
      (hostnames directory ips).length = ips.length ∧
        ∃ name ∈ hostnames directory ips, name ≠ "" := by
  cases directory with
  | none => exact Or.inl rfl
  | some directory =>
      unfold hostnames
      dsimp only
      split
      · exact Or.inl rfl
      · next hknown =>
          right
          rw [Bool.not_eq_true, List.all_eq_false] at hknown
          obtain ⟨found, hmem, hsome⟩ := hknown
          obtain ⟨ip, hip, rfl⟩ := List.mem_map.mp hmem
          cases hname : directory.name? ip with
          | none => rw [hname] at hsome; exact absurd rfl hsome
          | some name =>
              obtain ⟨before, after, hnames, -⟩ := List.lookup_eq_some_iff.mp hname
              -- The line of this address is its name, which the directory does not leave empty.
              refine ⟨by simp, name, List.mem_map.mpr ⟨_, hmem, by rw [hname]; rfl⟩, ?_⟩
              exact hnamed directory rfl (ip, name) (by simp [hnames])

namespace TableId

/-- A row of a table is rendered from a record with the given fields. A hop may come from the lines
of an output and has none. -/
inductive Renders : TableId → Fields → Row → Prop
  | device (radios : Radios) (fields : Fields) :
      Renders .devices fields ((Device.ofFields fields).row radios)
  | link (fields : Fields) : Renders .links fields (Link.ofFields fields).row
  | neighbor (fields : Fields) : Renders .neighbors fields (Neighbor.ofFields fields).row
  | port {directory : Option Directory} (hnamed : ∀ known ∈ directory, known.IsNamed)
      (fields : Fields) : Renders .connections fields ((Port.ofFields fields).row directory)
  | hop (hop : Hop) : Renders .traceroute [] hop.row

variable {id : TableId} {fields : Fields} {row : Row}

/-- Cell by cell a row holds what the kinds of the columns say. -/
theorem Renders.fits (h : id.Renders fields row) :
    List.Forall₂ (fun column cell => (id.kind column.key).Fits fields column.key cell)
      id.columns row := by
  cases h with
  | device radios =>
      exact .cons (.pair _ _) <| .cons .field <| .cons .field <| .cons .field <| .cons .field <|
        .cons .field <| .cons .field <| .cons (.text _) .nil
  | link =>
      exact .cons .field <| .cons .field <| .cons .field <| .cons .field <| .cons .field <|
        .cons .field <| .cons .field <| .cons .field <| .cons .field .nil
  | neighbor =>
      exact .cons .field <| .cons .field <| .cons .field <| .cons .field <| .cons .field <|
        .cons .field <| .cons .field .nil
  | port hnamed =>
      exact .cons .field <| .cons .field <| .cons (.several _) <| .cons (.several _) <|
        .cons (.several _) <| .cons .field .nil
  | hop hop =>
      exact .cons (.text _) <| .cons (.link _) <| .cons (.link _) <| .cons (.text _) .nil

/-- A cell stands in a row under the column of a key. -/
def Under (id : TableId) (row : Row) (key : String) (cell : Cell) : Prop :=
  ∃ label, (⟨key, label⟩, cell) ∈ id.columns.zip row

/-- What can be said of a row of a table, rendered from a record with the given fields. -/
structure Shape (id : TableId) (fields : Fields) (row : Row) : Prop where
  /-- There is one cell for each column. -/
  length_eq : row.length = id.columns.length
  /-- The addresses and names of hops are links, and nothing else is. -/
  link_iff : ∀ {key cell}, id.Under row key cell →
    (cell.link = true ↔ id = .traceroute ∧ (key = "ip" ∨ key = "hostname"))
  /-- Elsewhere a cell has one line that is not empty, or none. -/
  single : ∀ {key cell}, id.Under row key cell → ¬ id.HasLines key →
    cell.lines.length ≤ 1 ∧ "" ∉ cell.lines
  /-- The cell of a field is empty if and only if the field is missing or falsy. -/
  lines_eq_nil_iff : ∀ {key cell}, id.Under row key cell → id.ShowsField key →
    (cell.lines = [] ↔ ∀ value ∈ fields.lookup key, value.IsFalsy)
  /-- A device has a line for each of its two addresses. -/
  length_addresses : ∀ {cell}, id = .devices → id.Under row "ipv4" cell → cell.lines.length = 2
  /-- Names stand beside their addresses, and at least one of them is known. -/
  hostnames_cases : ∀ {ips hostnames}, id = .connections → id.Under row "ips" ips →
    id.Under row "hostnames" hostnames → hostnames.lines = [] ∨
      hostnames.lines.length = ips.lines.length ∧ ∃ line ∈ hostnames.lines, line ≠ ""

theorem Renders.hostnames_cases {ips hostnames : Cell} (h : id.Renders fields row)
    (hid : id = .connections) (hips : id.Under row "ips" ips)
    (hhostnames : id.Under row "hostnames" hostnames) :
    hostnames.lines = [] ∨
      hostnames.lines.length = ips.lines.length ∧ ∃ line ∈ hostnames.lines, line ≠ "" := by
  subst hid
  cases h with
  | @port directory hnamed fields =>
      obtain ⟨label, hips⟩ := hips
      obtain ⟨other, hhostnames⟩ := hhostnames
      have hips : label = "IPs" ∧ ips = .ofLines (Port.ofFields fields).ips := by
        simpa [columns, Port.row] using hips
      have hhostnames : other = "Hostnames" ∧
          hostnames = .ofLines (Directory.hostnames directory (Port.ofFields fields).ips) := by
        simpa [columns, Port.row] using hhostnames
      rw [hips.2, hhostnames.2]
      exact Directory.hostnames_cases hnamed _

/-- **Every row has the shape of its table.** -/
theorem Renders.shape (h : id.Renders fields row) : id.Shape fields row := by
  obtain ⟨hlength, hzip⟩ := List.forall₂_iff_zip.mp h.fits
  have hfits : ∀ {key cell}, id.Under row key cell → (id.kind key).Fits fields key cell :=
    fun ⟨_, hmem⟩ => hzip hmem
  refine ⟨hlength.symm, fun hcell => ?_, fun hcell hlines => ?_, fun hcell hfield => ?_,
    fun hid hcell => ?_, h.hostnames_cases⟩
  · rw [(hfits hcell).link_iff, kind_eq_link_iff]
  · -- Only two kinds of columns have cells with several lines.
    refine (hfits hcell).single (fun hpair => hlines ?_) fun hseveral => hlines ?_
    · exact Or.inl (kind_eq_pair_iff.mp hpair)
    · exact Or.inr (kind_eq_several_iff.mp hseveral)
  · exact (hfits hcell).lines_eq_nil_iff (kind_eq_field hfield)
  · exact (hfits hcell).length_lines (kind_eq_pair_iff.mpr ⟨hid, rfl⟩)

end TableId

end MeshConsole
