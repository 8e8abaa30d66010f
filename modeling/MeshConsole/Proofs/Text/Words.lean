import MeshConsole.Text.Blank
import Mathlib.Data.List.Basic

/-!
# Words of texts that are put together

Where a text with a blank is cut, its words are those in front of the blank and those behind it
(`words_append_cons`). So blanks at either end add no word, and a word that stands in front of a
blank is the first word of its text (`words_append_gap`). What is found is always a word: not empty,
and without a blank (`isWord_of_mem_words`).
-/

namespace MeshConsole.Text

/-- At least one character, and none of them blank. -/
structure IsWord (word : List Char) : Prop where
  ne_nil : word ≠ []
  isBlank : ∀ c ∈ word, isBlank c = false

instance (word : List Char) : Decidable (IsWord word) :=
  decidable_of_iff (word.isEmpty = false ∧ word.all (!Text.isBlank ·) = true) <| by
    simp only [List.isEmpty_eq_false_iff, List.all_eq_true, Bool.not_eq_true']
    exact ⟨fun h => ⟨h.1, h.2⟩, fun h => ⟨h.ne_nil, h.isBlank⟩⟩

/-- Blanks only. -/
def IsSpace (space : List Char) : Prop := ∀ c ∈ space, isBlank c = true

instance (space : List Char) : Decidable (IsSpace space) :=
  decidable_of_iff (space.all isBlank = true) List.all_eq_true

/-- At least one blank, and nothing else. -/
structure IsGap (gap : List Char) : Prop where
  ne_nil : gap ≠ []
  isSpace : IsSpace gap

instance (gap : List Char) : Decidable (IsGap gap) :=
  decidable_of_iff (gap.isEmpty = false ∧ IsSpace gap) <| by
    rw [List.isEmpty_eq_false_iff]
    exact ⟨fun h => ⟨h.1, h.2⟩, fun h => ⟨h.ne_nil, h.isSpace⟩⟩

/-! ## Words at a blank -/

theorem closeWord_append (run : List Char) (first later : List (List Char)) :
    closeWord run (first ++ later) = closeWord run first ++ later := by
  unfold closeWord
  split <;> rfl

/-- The words behind a part of a text come behind the words of that part. -/
theorem foldr_pushWordChar_append (cs : List Char) (later : List (List Char)) :
    cs.foldr pushWordChar ([], later) =
      ((cs.foldr pushWordChar ([], [])).1, (cs.foldr pushWordChar ([], [])).2 ++ later) := by
  induction cs with
  | nil => rfl
  | cons c cs ih =>
      rw [List.foldr_cons, List.foldr_cons, ih]
      unfold pushWordChar
      cases isBlank c with
      | true => exact congrArg (Prod.mk []) (closeWord_append _ _ _)
      | false => rfl

/-- A blank divides the words in front of it from those behind it. -/
theorem words_append_cons {c : Char} (hc : isBlank c = true) (cs rest : List Char) :
    words (cs ++ c :: rest) = words cs ++ words rest := by
  have hblank : pushWordChar c (rest.foldr pushWordChar ([], [])) = ([], words rest) := by
    unfold pushWordChar
    rw [if_pos hc]
    rfl
  unfold words
  rw [List.foldr_append, List.foldr_cons, hblank, foldr_pushWordChar_append]
  exact closeWord_append _ _ _

/-! ## Blanks and words at an end -/

theorem words_append_of_isSpace {space : List Char} (h : IsSpace space) (cs : List Char) :
    words (space ++ cs) = words cs := by
  induction space with
  | nil => rfl
  | cons c space ih =>
      obtain ⟨hc, hspace⟩ := List.forall_mem_cons.mp h
      rw [List.cons_append, words_cons_of_isBlank hc, ih hspace]

theorem words_of_isSpace {space : List Char} (h : IsSpace space) : words space = [] := by
  have hwords := words_append_of_isSpace h []
  rwa [List.append_nil] at hwords

theorem words_append_isSpace {space : List Char} (h : IsSpace space) (cs : List Char) :
    words (cs ++ space) = words cs := by
  cases space with
  | nil => rw [List.append_nil]
  | cons c space =>
      obtain ⟨hc, hspace⟩ := List.forall_mem_cons.mp h
      rw [words_append_cons hc, words_of_isSpace hspace, List.append_nil]

theorem foldr_pushWordChar_of_forall {run : List Char} (h : ∀ c ∈ run, isBlank c = false) :
    run.foldr pushWordChar ([], []) = (run, []) := by
  induction run with
  | nil => rfl
  | cons c run ih =>
      obtain ⟨hc, hrun⟩ := List.forall_mem_cons.mp h
      rw [List.foldr_cons, ih hrun]
      unfold pushWordChar
      rw [hc]
      rfl

theorem words_of_isWord {word : List Char} (h : IsWord word) : words word = [word] := by
  unfold words
  rw [foldr_pushWordChar_of_forall h.isBlank]
  exact closeWord_of_ne_nil h.ne_nil []

/-- A word at the start of a text is its first word if it does not go on. -/
theorem words_append_of_isWord {word : List Char} (h : IsWord word) {rest : List Char}
    (hrest : ∀ c ∈ rest.head?, isBlank c = true) : words (word ++ rest) = word :: words rest := by
  cases rest with
  | nil => rw [List.append_nil, words_of_isWord h, words_nil]
  | cons c rest =>
      have hc : isBlank c = true := hrest c rfl
      rw [words_append_cons hc, words_of_isWord h, words_cons_of_isBlank hc, List.singleton_append]

/-- A word in front of a gap is the first word. -/
theorem words_append_gap {word gap : List Char} (hword : IsWord word) (hgap : IsGap gap)
    (rest : List Char) : words (word ++ (gap ++ rest)) = word :: words rest := by
  have hhead : ∀ c ∈ (gap ++ rest).head?, isBlank c = true := by
    rw [List.head?_append_of_ne_nil _ hgap.ne_nil]
    exact fun c hc => hgap.isSpace c (List.mem_of_mem_head? hc)
  rw [words_append_of_isWord hword hhead, words_append_of_isSpace hgap.isSpace]

/-! ## What is found -/

theorem isWord_of_mem_closeWord {run word : List Char} {later : List (List Char)}
    (hrun : ∀ c ∈ run, isBlank c = false) (hlater : ∀ other ∈ later, IsWord other)
    (h : word ∈ closeWord run later) : IsWord word := by
  by_cases hnil : run = []
  · subst hnil
    exact hlater word h
  · rw [closeWord_of_ne_nil hnil] at h
    rcases List.mem_cons.mp h with rfl | hmem
    · exact ⟨hnil, hrun⟩
    · exact hlater word hmem

theorem isWord_of_mem_words {cs word : List Char} (h : word ∈ words cs) : IsWord word := by
  have hfold : (∀ c ∈ (cs.foldr pushWordChar ([], [])).1, isBlank c = false) ∧
      ∀ other ∈ (cs.foldr pushWordChar ([], [])).2, IsWord other := by
    clear h
    induction cs with
    | nil => exact ⟨List.forall_mem_nil _, List.forall_mem_nil _⟩
    | cons c cs ih =>
        rw [List.foldr_cons]
        unfold pushWordChar
        cases hc : isBlank c with
        | true =>
            exact ⟨List.forall_mem_nil _, fun _ hother => isWord_of_mem_closeWord ih.1 ih.2 hother⟩
        | false => exact ⟨List.forall_mem_cons.mpr ⟨hc, ih.1⟩, ih.2⟩
  exact isWord_of_mem_closeWord hfold.1 hfold.2 h

end MeshConsole.Text
