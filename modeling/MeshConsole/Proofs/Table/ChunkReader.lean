import MeshConsole.Proofs.Table.Chunks
import MeshConsole.Proofs.Text.Offsets
import MeshConsole.Proofs.Text.Trim

/-!
# Reading chunks one after the other

The chunks of a text can also be read from its start. The reader holds the rest of the text. One
step looks for the first character that is not of the kind of the first one, as an offset in the
bytes of the rest, and cuts there:

    rest ──scan──▶ offset ──cut──▶ a chunk and a shorter rest

Every step takes the longest run that the rest begins with, or finds that nothing is left
(`readStep_cases`). So the reader comes to the end of every text, and the chunks that it reads are
a cut of it, of which there is one.
-/

namespace MeshConsole.NaturalOrder

/-- What one step of the reader comes to. -/
inductive ReadStep where
  /-- Nothing is left. -/
  | ended
  /-- A chunk, and the text behind it. -/
  | chunk (piece : Chunk) (behind : List Char)
  /-- The rest cannot be cut where the scan stopped. -/
  | broken
deriving Repr, DecidableEq

/-- One step of the reader, on the rest of the text. -/
def readStep : List Char → ReadStep
  | [] => .ended
  | c :: cs =>
    match Text.splitAtOffset? (Text.scanWhile (sameKind c) 0 (c :: cs)) (c :: cs) with
    | some (run, behind) => .chunk (.ofKind c.isDigit run) behind
    | none => .broken

/-- The reader comes to the end of a text and reads these chunks on the way. -/
inductive Reads : List Char → List Chunk → Prop where
  | ended {rest : List Char} (h : readStep rest = .ended) : Reads rest []
  | chunk {rest behind : List Char} {piece : Chunk} {pieces : List Chunk}
      (h : readStep rest = .chunk piece behind) (hbehind : Reads behind pieces) :
      Reads rest (piece :: pieces)

/-! ## One step -/

theorem readStep_cons (c : Char) (cs : List Char) :
    readStep (c :: cs) = .chunk (.ofKind c.isDigit ((c :: cs).takeWhile (sameKind c)))
      ((c :: cs).dropWhile (sameKind c)) := by
  rw [readStep, Text.splitAtOffset?_scanWhile]

-- The first character has two bytes.
example : readStep "ß10".toList = .chunk (.text ['ß']) ['1', '0'] := by decide +kernel

/-- A step finds that nothing is left, or takes the longest run that the rest begins with. -/
theorem readStep_cases (rest : List Char) :
    (rest = [] ∧ readStep rest = .ended) ∨
    ∃ piece behind, readStep rest = .chunk piece behind ∧ rest = piece.run ++ behind ∧
      piece.IsRun ∧ ∀ c ∈ behind.head?, c.isDigit ≠ piece.isDigits := by
  cases rest with
  | nil => exact .inl ⟨rfl, rfl⟩
  | cons c cs =>
      have hne : (c :: cs).takeWhile (sameKind c) ≠ [] := by
        rw [List.takeWhile_cons_of_pos (sameKind_iff.mpr rfl)]
        exact List.cons_ne_nil c _
      have hkind : ∀ d ∈ (c :: cs).takeWhile (sameKind c), d.isDigit = c.isDigit :=
        fun d hd => (sameKind_iff.mp (List.mem_takeWhile_imp hd)).symm
      refine .inr ⟨_, _, readStep_cons c cs, ?_, Chunk.isRun_ofKind hne hkind, fun d hd => ?_⟩
      · rw [Chunk.run_ofKind, List.takeWhile_append_dropWhile]
      · rw [Chunk.isDigits_ofKind]
        exact (sameKind_eq_false_iff.mp (Text.eq_false_of_head?_dropWhile hd)).symm

/-! ## To the end of a text -/

/-- The reader comes to the end of every text: each step leaves a shorter rest. -/
theorem exists_reads (cs : List Char) : ∃ pieces, Reads cs pieces := by
  rcases readStep_cases cs with ⟨-, hended⟩ | ⟨piece, behind, hstep, hcs, hpiece, -⟩
  · exact ⟨[], .ended hended⟩
  · have hshorter : behind.length < cs.length := by
      have hpos := List.length_pos_of_ne_nil hpiece.ne_nil
      rw [hcs, List.length_append]
      omega
    obtain ⟨pieces, hpieces⟩ := exists_reads behind
    exact ⟨piece :: pieces, .chunk hstep hpieces⟩
termination_by cs.length

/-- What is read is a cut of the text. -/
theorem Reads.isCut {cs : List Char} {pieces : List Chunk} (h : Reads cs pieces) :
    IsCut cs pieces := by
  induction h with
  | @ended rest hended =>
      rcases readStep_cases rest with ⟨rfl, -⟩ | ⟨piece, behind, hstep, -⟩
      · exact isCut_nil
      · cases hended.symm.trans hstep
  | @chunk rest behind piece pieces hchunk _ ih =>
      rcases readStep_cases rest with ⟨-, hended⟩ | ⟨piece', behind', hstep, rfl, hrun, hborder⟩
      · cases hended.symm.trans hchunk
      · cases hchunk.symm.trans hstep
        -- The rest begins with a character of the other kind, so the next chunk is of that kind.
        refine ih.cons hrun fun next hnext => ?_
        obtain ⟨c, hc, hkind⟩ := ih.exists_head hnext
        rw [← hkind]
        exact hborder c hc

/-- **The chunks of a text.** The reader comes to the end of every text, and what it reads are the
chunks of the text. They are the one cut of it: their characters in order are the text, each chunk
holds at least one character and only those of its kind, and neighbours are of different kinds. -/
theorem chunks_unique_cut (cs : List Char) (pieces : List Chunk) :
    (Reads cs pieces ↔ pieces = chunks cs) ∧ (IsCut cs pieces ↔ pieces = chunks cs) := by
  refine ⟨⟨fun h => h.isCut.eq_chunks, ?_⟩, ⟨IsCut.eq_chunks, ?_⟩⟩
  · rintro rfl
    obtain ⟨pieces, hpieces⟩ := exists_reads cs
    rwa [hpieces.isCut.eq_chunks] at hpieces
  · rintro rfl
    exact isCut_chunks cs

end MeshConsole.NaturalOrder
