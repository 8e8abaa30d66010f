import MeshConsole.Table.NaturalOrder
import Mathlib.Data.List.SplitBy

/-!
# Chunks are the maximal runs

A text is cut into chunks one character at a time, from its end to its start. The character in front
either joins the first chunk or starts a chunk of its own (`pushChar_cases`). Neither loses a
character, mixes digits with other characters, or puts two chunks of one kind side by side, so the
chunks of a text are a cut of it (`isCut_chunks`). A cut has no choice: its chunks are the longest
runs of characters of one kind (`IsCut.map_run`), so a text has no other cut (`IsCut.eq_chunks`).
-/

namespace MeshConsole.NaturalOrder

namespace Chunk

/-- A chunk of digits. -/
def isDigits : Chunk → Bool
  | .digits _ => true
  | .text _ => false

/-- The chunk of a run, by its kind. -/
def ofKind (digits : Bool) (run : List Char) : Chunk := if digits then .digits run else .text run

/-- A chunk with one more character in front. -/
def push (c : Char) : Chunk → Chunk
  | .digits run => .digits (c :: run)
  | .text run => .text (c :: run)

/-- A chunk that holds characters, all of them of its own kind. -/
structure IsRun (chunk : Chunk) : Prop where
  ne_nil : chunk.run ≠ []
  kind : ∀ c ∈ chunk.run, c.isDigit = chunk.isDigits

@[simp] theorem run_push (c : Char) (chunk : Chunk) : (chunk.push c).run = c :: chunk.run := by
  cases chunk <;> rfl

@[simp] theorem isDigits_push (c : Char) (chunk : Chunk) :
    (chunk.push c).isDigits = chunk.isDigits := by
  cases chunk <;> rfl

@[simp] theorem run_ofKind (digits : Bool) (run : List Char) : (ofKind digits run).run = run := by
  cases digits <;> rfl

@[simp] theorem isDigits_ofKind (digits : Bool) (run : List Char) :
    (ofKind digits run).isDigits = digits := by
  cases digits <;> rfl

@[simp] theorem ofKind_isDigits (chunk : Chunk) : ofKind chunk.isDigits chunk.run = chunk := by
  cases chunk <;> rfl

@[simp] theorem run_single (c : Char) : (single c).run = [c] := run_ofKind c.isDigit [c]

@[simp] theorem isDigits_single (c : Char) : (single c).isDigits = c.isDigit :=
  isDigits_ofKind c.isDigit [c]

theorem isRun_ofKind {digits : Bool} {run : List Char} (hne : run ≠ [])
    (hkind : ∀ c ∈ run, c.isDigit = digits) : (ofKind digits run).IsRun where
  ne_nil := by rwa [run_ofKind]
  kind := by rwa [run_ofKind, isDigits_ofKind]

theorem isRun_single (c : Char) : (single c).IsRun :=
  isRun_ofKind (List.cons_ne_nil c []) (by simp)

theorem IsRun.push {c : Char} {chunk : Chunk} (h : chunk.IsRun) (hc : chunk.isDigits = c.isDigit) :
    (chunk.push c).IsRun where
  ne_nil := by simp
  kind := by
    rw [run_push, isDigits_push, List.forall_mem_cons]
    exact ⟨hc.symm, h.kind⟩

/-- The characters of a run say of which kind it is. -/
theorem IsRun.all_isDigit {chunk : Chunk} (h : chunk.IsRun) :
    chunk.run.all Char.isDigit = chunk.isDigits := by
  cases hkind : chunk.isDigits with
  | true => exact List.all_eq_true.mpr fun c hc => (h.kind c hc).trans hkind
  | false =>
      obtain ⟨c, hc⟩ := List.exists_mem_of_ne_nil _ h.ne_nil
      refine List.all_eq_false.mpr ⟨c, hc, ?_⟩
      rw [h.kind c hc, hkind]
      decide

/-- The chunk of a run, by the characters of the run. -/
def ofRun (run : List Char) : Chunk := ofKind (run.all Char.isDigit) run

theorem IsRun.ofRun_run {chunk : Chunk} (h : chunk.IsRun) : ofRun chunk.run = chunk := by
  unfold ofRun
  rw [h.all_isDigit, ofKind_isDigits]

end Chunk

/-- Chunks that a text is cut into: they hold its characters in order, each holds a run, and
neighbours are of different kinds. -/
structure IsCut (cs : List Char) (pieces : List Chunk) : Prop where
  flatten : (pieces.map Chunk.run).flatten = cs
  isRun : ∀ piece ∈ pieces, piece.IsRun
  alternates : pieces.IsChain fun a b => a.isDigits ≠ b.isDigits

/-! ## The chunks of a text -/

/-- A character in front of chunks joins the first one if that is of its kind, and starts a chunk
of its own otherwise. -/
theorem pushChar_cases (c : Char) (pieces : List Chunk) :
    (∃ first later, pieces = first :: later ∧ first.isDigits = c.isDigit ∧
      pushChar c pieces = first.push c :: later) ∨
    ((∀ first ∈ pieces.head?, first.isDigits ≠ c.isDigit) ∧
      pushChar c pieces = .single c :: pieces) := by
  cases pieces with
  | nil => exact .inr ⟨by simp, rfl⟩
  | cons first later =>
      cases hc : c.isDigit <;> cases first <;>
        simp [pushChar, Chunk.single, Chunk.push, Chunk.isDigits, hc]

theorem isCut_nil : IsCut [] [] where
  flatten := rfl
  isRun := List.forall_mem_nil _
  alternates := List.isChain_nil

/-- A run in front of a cut that begins with a chunk of the other kind gives a cut. -/
theorem IsCut.cons {cs : List Char} {piece : Chunk} {pieces : List Chunk} (hpiece : piece.IsRun)
    (h : IsCut cs pieces) (hborder : ∀ next ∈ pieces.head?, next.isDigits ≠ piece.isDigits) :
    IsCut (piece.run ++ cs) (piece :: pieces) where
  flatten := by
    rw [← h.flatten]
    rfl
  isRun := List.forall_mem_cons.mpr ⟨hpiece, h.isRun⟩
  alternates :=
    List.isChain_cons.mpr ⟨fun next hnext => (hborder next hnext).symm, h.alternates⟩

/-- One more character in front of a text keeps its chunks a cut. -/
theorem IsCut.pushChar {cs : List Char} {pieces : List Chunk} (h : IsCut cs pieces) (c : Char) :
    IsCut (c :: cs) (pushChar c pieces) := by
  rcases pushChar_cases c pieces with ⟨first, later, rfl, hkind, hpush⟩ | ⟨hkind, hpush⟩
  · obtain ⟨hfirst, hlater⟩ := List.forall_mem_cons.mp h.isRun
    obtain ⟨hborder, hchain⟩ := List.isChain_cons.mp h.alternates
    -- The first chunk keeps its kind, so it still differs from the chunk behind it.
    rw [hpush]
    refine ⟨?_, List.forall_mem_cons.mpr ⟨hfirst.push hkind, hlater⟩, ?_⟩
    · rw [← h.flatten]
      simp
    · exact List.isChain_cons.mpr ⟨by simpa using hborder, hchain⟩
  · have hsingle : IsCut ((Chunk.single c).run ++ cs) (.single c :: pieces) :=
      .cons (Chunk.isRun_single c) h fun first hfirst => by
        rw [Chunk.isDigits_single]
        exact hkind first hfirst
    rwa [Chunk.run_single, List.singleton_append, ← hpush] at hsingle

/-- The first chunk of a cut is of the kind of the first character. -/
theorem IsCut.exists_head {cs : List Char} {pieces : List Chunk} (h : IsCut cs pieces)
    {first : Chunk} (hfirst : first ∈ pieces.head?) :
    ∃ c ∈ cs.head?, c.isDigit = first.isDigits := by
  obtain ⟨later, rfl⟩ := List.head?_eq_some_iff.mp hfirst
  have hrun := h.isRun first List.mem_cons_self
  obtain ⟨c, run, hc⟩ := List.exists_cons_of_ne_nil hrun.ne_nil
  refine ⟨c, ?_, hrun.kind c ?_⟩
  · rw [← h.flatten, List.map_cons, List.flatten_cons, hc]
    rfl
  · rw [hc]
    exact List.mem_cons_self

/-- The chunks of a text are a cut of it. -/
theorem isCut_chunks (cs : List Char) : IsCut cs (chunks cs) := by
  induction cs with
  | nil => exact isCut_nil
  | cons c cs ih => exact ih.pushChar c

/-! ## Maximal runs -/

/-- Two characters that may stand in one run. -/
def sameKind (a b : Char) : Bool := a.isDigit == b.isDigit

theorem sameKind_iff {a b : Char} : sameKind a b = true ↔ a.isDigit = b.isDigit := beq_iff_eq

theorem sameKind_eq_false_iff {a b : Char} : sameKind a b = false ↔ a.isDigit ≠ b.isDigit :=
  beq_eq_false_iff_ne

/-- The longest runs of digits and of other characters that a text consists of, in order. -/
def runs (cs : List Char) : List (List Char) := cs.splitBy sameKind

/-- The chunks of a cut are the longest runs. -/
theorem IsCut.map_run {cs : List Char} {pieces : List Chunk} (h : IsCut cs pieces) :
    pieces.map Chunk.run = runs cs := by
  symm
  refine List.splitBy_eq_iff.mpr ⟨h.flatten.symm, ?_, ?_, ?_⟩
  · intro hnil
    obtain ⟨piece, hpiece, hrun⟩ := List.mem_map.mp hnil
    exact (h.isRun piece hpiece).ne_nil hrun
  · intro run hrun
    obtain ⟨piece, hpiece, rfl⟩ := List.mem_map.mp hrun
    have hkind := (h.isRun piece hpiece).kind
    refine (List.pairwise_of_forall_mem_list fun a ha b hb => ?_).isChain
    rw [sameKind_iff, hkind a ha, hkind b hb]
  · rw [List.isChain_map]
    refine h.alternates.imp_of_mem_imp fun a b ha hb hne => ?_
    obtain ⟨hanil, hakind⟩ := h.isRun a ha
    obtain ⟨hbnil, hbkind⟩ := h.isRun b hb
    refine ⟨hanil, hbnil, ?_⟩
    rw [sameKind_eq_false_iff, hakind _ (List.getLast_mem hanil), hbkind _ (List.head_mem hbnil)]
    exact hne

/-- The runs leave no choice of the chunks: their characters say of which kind they are. -/
theorem IsCut.eq_map_runs {cs : List Char} {pieces : List Chunk} (h : IsCut cs pieces) :
    pieces = (runs cs).map Chunk.ofRun := by
  have hsame : pieces.map (Chunk.ofRun ∘ Chunk.run) = pieces.map id :=
    List.map_congr_left fun piece hpiece => (h.isRun piece hpiece).ofRun_run
  rw [← h.map_run, List.map_map, hsame, List.map_id]

/-- A text has one cut. -/
theorem IsCut.eq_chunks {cs : List Char} {pieces : List Chunk} (h : IsCut cs pieces) :
    pieces = chunks cs :=
  h.eq_map_runs.trans (isCut_chunks cs).eq_map_runs.symm

end MeshConsole.NaturalOrder
