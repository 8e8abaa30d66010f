import MeshConsole.Proofs.Text.Utf8

/-!
# Offsets in the bytes of a text

A place in a text is given as an offset in its bytes. Only an offset between two characters, or at
an end, is a place at which the text can be cut (`splitAtOffset?_eq_some_iff`). A scan over the
characters finds such an offset: it stops in front of the first character that fails a test, so the
cut is between the characters that pass and the rest (`splitAtOffset?_scanWhile`).
-/

namespace MeshConsole.Text

/-- A text cut at an offset in its bytes; none if the offset lies inside a character or behind the
end. -/
def splitAtOffset? (offset : Nat) : List Char → Option (List Char × List Char)
  | [] => if offset = 0 then some ([], []) else none
  | c :: cs =>
    if offset = 0 then some ([], c :: cs)
    else if offset < c.utf8Size then none
    else (splitAtOffset? (offset - c.utf8Size) cs).map fun parts => (c :: parts.1, parts.2)

/-- Where a scan over a text stops: at the offset of the first character that fails the test, or
at the end. -/
def scanWhile (test : Char → Bool) (offset : Nat) : List Char → Nat
  | [] => offset
  | c :: cs => if test c then scanWhile test (offset + c.utf8Size) cs else offset

theorem splitAtOffset?_zero (cs : List Char) : splitAtOffset? 0 cs = some ([], cs) := by
  cases cs <;> rfl

/-- A text is cut behind its first characters at the number of their bytes. -/
theorem splitAtOffset?_append (front behind : List Char) :
    splitAtOffset? (encode front).length (front ++ behind) = some (front, behind) := by
  induction front with
  | nil => exact splitAtOffset?_zero behind
  | cons c front ih =>
      have hpos := c.utf8Size_pos
      rw [length_encode_cons, List.cons_append, splitAtOffset?, if_neg (by omega),
        if_neg (by omega), Nat.add_sub_cancel_left, ih]
      rfl

/-- A text can be cut at an offset if and only if its first characters have that many bytes. -/
theorem splitAtOffset?_eq_some_iff {offset : Nat} {cs front behind : List Char} :
    splitAtOffset? offset cs = some (front, behind) ↔
      cs = front ++ behind ∧ offset = (encode front).length := by
  constructor
  · intro h
    fun_induction splitAtOffset? offset cs generalizing front with
    | case1 =>
        cases h
        exact ⟨rfl, rfl⟩
    | case2 => cases h
    | case3 =>
        cases h
        exact ⟨rfl, rfl⟩
    | case4 => cases h
    | case5 offset c cs _ hsize ih =>
        obtain ⟨parts, hparts, ⟨⟩⟩ := Option.map_eq_some_iff.mp h
        obtain ⟨rfl, hlength⟩ := ih hparts
        refine ⟨rfl, ?_⟩
        rw [length_encode_cons]
        omega
  · rintro ⟨rfl, rfl⟩
    exact splitAtOffset?_append front behind

theorem scanWhile_eq (test : Char → Bool) (offset : Nat) (cs : List Char) :
    scanWhile test offset cs = offset + (encode (cs.takeWhile test)).length := by
  induction cs generalizing offset with
  | nil => rfl
  | cons c cs ih =>
      rw [scanWhile, List.takeWhile_cons]
      split
      · rw [ih, length_encode_cons, Nat.add_assoc]
      · rfl

/-- A scan stops between two characters. -/
theorem splitAtOffset?_scanWhile (test : Char → Bool) (cs : List Char) :
    splitAtOffset? (scanWhile test 0 cs) cs = some (cs.takeWhile test, cs.dropWhile test) := by
  rw [scanWhile_eq, Nat.zero_add, splitAtOffset?_eq_some_iff]
  exact ⟨List.takeWhile_append_dropWhile.symm, rfl⟩

end MeshConsole.Text
