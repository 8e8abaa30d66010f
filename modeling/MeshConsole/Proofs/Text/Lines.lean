import MeshConsole.Text.Blank

/-!
# Lines of texts that are put together

Where a text with a line feed is cut, its pieces in front of the line feed and those behind it are
the pieces of the two parts (`splitOn_append_cons`). So a line that is put in front of a text is its
first line (`lines_append_cons`), one that is put behind it is its last (`getLast?_lines_append`),
and no line has a line feed in it (`not_mem_of_mem_lines`).
-/

namespace MeshConsole.Text

/-! ## Pieces -/

section

variable {α : Type} {separates : α → Bool}

theorem splitFirst_append_cons {x : α} (hx : separates x = true) (xs rest : List α) :
    splitFirst separates (xs ++ x :: rest) =
      ((splitFirst separates xs).1, (splitFirst separates xs).2 ++ splitOn separates rest) := by
  induction xs with
  | nil =>
      rw [List.nil_append, splitFirst_cons]
      unfold pushPiece
      rw [if_pos hx]
      rfl
  | cons y ys ih =>
      rw [List.cons_append, splitFirst_cons, splitFirst_cons, ih]
      unfold pushPiece
      cases separates y <;> rfl

/-- A separator divides the pieces in front of it from those behind it. -/
theorem splitOn_append_cons {x : α} (hx : separates x = true) (xs rest : List α) :
    splitOn separates (xs ++ x :: rest) = splitOn separates xs ++ splitOn separates rest := by
  rw [splitOn, splitFirst_append_cons hx]
  rfl

/-- No piece has a separator in it. -/
theorem eq_false_of_mem_splitOn {xs piece : List α} {x : α} (hpiece : piece ∈ splitOn separates xs)
    (hx : x ∈ piece) : separates x = false := by
  induction xs generalizing piece with
  | nil =>
      obtain rfl := List.mem_singleton.mp hpiece
      cases hx
  | cons y ys ih =>
      unfold splitOn at hpiece ih
      rw [splitFirst_cons] at hpiece
      unfold pushPiece at hpiece
      cases hy : separates y with
      | true =>
          rw [hy] at hpiece
          rcases List.mem_cons.mp hpiece with rfl | hlater
          · cases hx
          · exact ih hlater hx
      | false =>
          rw [hy] at hpiece
          rcases List.mem_cons.mp hpiece with rfl | hlater
          · rcases List.mem_cons.mp hx with rfl | hrest
            · exact hy
            · exact ih List.mem_cons_self hrest
          · exact ih (List.mem_cons_of_mem _ hlater) hx

end

/-! ## Lines -/

/-- The lines of a text from its pieces. -/
theorem lines_of_splitOn {cs first : List Char} {later : List (List Char)}
    (h : splitOn (· == '\n') cs = first :: later) : lines cs = closeLines first later := by
  obtain ⟨hfirst, hlater⟩ := List.cons.inj h
  unfold lines
  dsimp only
  rw [hfirst, hlater]

theorem splitOn_of_not_mem {cs : List Char} (h : '\n' ∉ cs) : splitOn (· == '\n') cs = [cs] :=
  splitOn_of_forall fun _ hc => beq_eq_false_iff_ne.mpr fun heq => h (heq ▸ hc)

/-- The pieces of a text with a line feed in it are those in front of it and those behind it. -/
theorem splitOn_append_lineFeed (cs rest : List Char) :
    splitOn (· == '\n') (cs ++ '\n' :: rest) = splitOn (· == '\n') cs ++ splitOn (· == '\n') rest :=
  splitOn_append_cons rfl cs rest

/-- A line in front of a text is its first line. -/
theorem lines_append_cons {first : List Char} (h : '\n' ∉ first) (rest : List Char) :
    lines (first ++ '\n' :: rest) = dropReturn first :: lines rest := by
  have hpieces := splitOn_append_lineFeed first rest
  rw [splitOn_of_not_mem h] at hpieces
  exact lines_of_splitOn hpieces

theorem getLast?_closeLines {last : List Char} (h : last ≠ []) (first : List Char)
    (later : List (List Char)) : (closeLines first (later ++ [last])).getLast? = some last := by
  induction later generalizing first with
  | nil =>
      rw [List.nil_append]
      unfold closeLines closeLines
      rw [if_neg (by simpa using h)]
      rfl
  | cons next later ih =>
      rw [List.cons_append]
      unfold closeLines
      rw [List.getLast?_cons, ih]
      rfl

/-- A line behind a text is its last line. -/
theorem getLast?_lines_append {last : List Char} (h : '\n' ∉ last) (hnonempty : last ≠ [])
    (cs : List Char) : (lines (cs ++ '\n' :: last)).getLast? = some last := by
  have hpieces := splitOn_append_lineFeed cs last
  rw [splitOn_of_not_mem h] at hpieces
  rw [lines_of_splitOn hpieces]
  exact getLast?_closeLines hnonempty _ _

theorem mem_of_mem_dropReturn {c : Char} {cs : List Char} (h : c ∈ dropReturn cs) : c ∈ cs := by
  unfold dropReturn at h
  split at h
  · exact List.dropLast_subset cs h
  · exact h

/-- The lines of a text are its pieces, or less. -/
theorem exists_piece_of_mem_closeLines {line first : List Char} {later : List (List Char)}
    (h : line ∈ closeLines first later) :
    ∃ piece ∈ first :: later, ∀ c ∈ line, c ∈ piece := by
  induction later generalizing first with
  | nil =>
      unfold closeLines at h
      split at h
      · cases h
      · exact ⟨line, h, fun c hc => hc⟩
  | cons next later ih =>
      unfold closeLines at h
      rcases List.mem_cons.mp h with rfl | hlater
      · exact ⟨first, List.mem_cons_self, fun c hc => mem_of_mem_dropReturn hc⟩
      · obtain ⟨piece, hpiece, hsubset⟩ := ih hlater
        exact ⟨piece, List.mem_cons_of_mem first hpiece, hsubset⟩

/-- No line has a line feed in it. -/
theorem not_mem_of_mem_lines {cs line : List Char} (h : line ∈ lines cs) : '\n' ∉ line := by
  intro hmem
  obtain ⟨piece, hpiece, hsubset⟩ := exists_piece_of_mem_closeLines h
  have hpiece : piece ∈ splitOn (· == '\n') cs := hpiece
  have hfalse := eq_false_of_mem_splitOn hpiece (hsubset '\n' hmem)
  simp at hfalse

theorem not_mem_of_firstLine? {s line : String} (h : firstLine? s = some line) :
    '\n' ∉ line.toList := by
  obtain ⟨first, hfirst, rfl⟩ := Option.map_eq_some_iff.mp h
  rw [String.toList_ofList]
  exact not_mem_of_mem_lines (List.mem_of_mem_head? hfirst)

/-- Texts without a character are put together without it. -/
theorem not_mem_intercalate {c : Char} {separator : String} {texts : List String}
    (hseparator : c ∉ separator.toList) (h : ∀ text ∈ texts, c ∉ text.toList) :
    c ∉ (separator.intercalate texts).toList := by
  induction texts with
  | nil => simp
  | cons text later ih =>
      have htext : c ∉ text.toList := h text List.mem_cons_self
      by_cases hlater : later = []
      · subst hlater
        rw [String.intercalate_singleton]
        exact htext
      · have hrest := ih fun other hother => h other (List.mem_cons_of_mem text hother)
        rw [String.intercalate_cons_of_ne_nil hlater, String.toList_append, String.toList_append,
          List.mem_append, List.mem_append, not_or, not_or]
        exact ⟨⟨htext, hseparator⟩, hrest⟩

end MeshConsole.Text
