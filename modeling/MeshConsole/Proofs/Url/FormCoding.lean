import MeshConsole.Proofs.Decimal.Magnitude
import MeshConsole.Proofs.Text.Lines
import MeshConsole.Proofs.Text.Utf8
import MeshConsole.Url.Basic

/-!
# Form data, written and read back

A name or a value is written in letters, digits and a few signs. None of them is an ampersand or an
equals sign (`byte_ne_of_mem_encode`), so the pairs of a form fall apart at the signs between them, and
each part is read back one character after the other:

    c ──encodeChar──▶ itself, "+" or "%XX..." ──plusToSpace──▶ ──Percent.decode──▶ bytes of c

A plus sign is never written as itself. That is why a plus sign may become a space before the
percent signs are looked at.
-/

namespace MeshConsole

/-! ## Cutting once -/

/-- A sequence is cut at its first separator. -/
theorem Text.splitOnce_append_cons {α : Type} {separates : α → Bool} {xs : List α} {x : α}
    (hxs : ∀ y ∈ xs, separates y = false) (hx : separates x = true) (rest : List α) :
    splitOnce separates (xs ++ x :: rest) = (xs, some rest) := by
  have hpasses : ∀ y ∈ xs, (!separates y) = true := by simpa using hxs
  unfold splitOnce
  rw [List.dropWhile_append_of_pos hpasses, List.takeWhile_append_of_pos hpasses]
  simp [hx]

/-! ## Bytes of ASCII characters -/

namespace Text

theorem utf8EncodeChar_of_lt {c : Char} (h : c.toNat < 0x80) :
    String.utf8EncodeChar c = [UInt8.ofNat c.toNat] := by
  unfold String.utf8EncodeChar
  exact if_pos (Nat.le_of_lt_succ h)

theorem byte_ne {c d : Char} (hc : c.toNat < 0x80) (hd : d.toNat < 0x80) (h : c ≠ d) :
    UInt8.ofNat c.toNat ≠ UInt8.ofNat d.toNat := by
  intro hbyte
  have hnat := congrArg UInt8.toNat hbyte
  rw [toNat_ofNat_of_lt (by omega), toNat_ofNat_of_lt (by omega)] at hnat
  exact h (Char.toNat_inj.mp hnat)

end Text

/-! ## Escaped bytes -/

namespace Percent

theorem decode_cons_of_ne {b : UInt8} (h : b ≠ 0x25) (rest : List UInt8) :
    decode (b :: rest) = b :: decode rest := by
  unfold decode
  rw [decodeFrom, if_neg h]

/-- The byte of an upper-case hexadecimal digit. -/
def hexDigit (n : Nat) : UInt8 := UInt8.ofNat (upperHex n).toNat

theorem hexByte?_hexDigit {n : Nat} (h : n < 16) : hexByte? (hexDigit n) = some n := by
  revert n
  decide

/-- An escaped byte is read back, whatever stands behind it. -/
theorem decode_escaped (b : UInt8) (rest : List UInt8) :
    decode (0x25 :: hexDigit (b.toNat / 16) :: hexDigit (b.toNat % 16) :: rest) =
      b :: decode rest := by
  have hbyte : b.toNat < 256 := b.toNat_lt
  have hhigh : hexByte? (hexDigit (b.toNat / 16)) = some (b.toNat / 16) :=
    hexByte?_hexDigit (by omega)
  have hlow : hexByte? (hexDigit (b.toNat % 16)) = some (b.toNat % 16) :=
    hexByte?_hexDigit (by omega)
  have hpair : hexPair? (hexDigit (b.toNat / 16) :: hexDigit (b.toNat % 16) :: rest) = some b := by
    rw [hexPair?, hhigh, hlow, Option.bind_eq_bind, Option.bind_some, Option.bind_some,
      Nat.div_add_mod, UInt8.ofNat_toNat]
  unfold decode
  rw [decodeFrom, if_pos rfl, hpair]
  rfl

end Percent

namespace Form

/-! ## Written characters -/

theorem bounds_of_standsForItself {c : Char} (h : standsForItself c = true) :
    0x21 ≤ c.toNat ∧ c.toNat ≤ 0x7E := by
  rcases Bool.or_eq_true_iff.mp h with halphanum | hsign
  · rcases Bool.or_eq_true_iff.mp halphanum with halpha | hdigit
    · rcases Bool.or_eq_true_iff.mp halpha with hupper | hlower
      · have hrange : 65 ≤ c.toNat ∧ c.toNat ≤ 90 := of_decide_eq_true hupper
        omega
      · obtain ⟨hleast, hmost⟩ := Bool.and_eq_true_iff.mp hlower
        have hleast : 97 ≤ c.toNat := of_decide_eq_true hleast
        have hmost : c.toNat ≤ 122 := of_decide_eq_true hmost
        omega
    · have hrange := Decimal.toNat_of_isDigit hdigit
      omega
  · have hmem : c ∈ ['*', '-', '.', '_'] := List.contains_iff_mem.mp hsign
    simp only [List.mem_cons, List.not_mem_nil, or_false] at hmem
    rcases hmem with rfl | rfl | rfl | rfl <;> decide

theorem toNat_lt_of_standsForItself {c : Char} (h : standsForItself c = true) :
    c.toNat < 0x80 :=
  Nat.lt_succ_of_lt (Nat.lt_succ_of_le (bounds_of_standsForItself h).2)

theorem ne_of_standsForItself {c : Char} (hc : standsForItself c = true) (sign : Char)
    (hsign : standsForItself sign = false) : c ≠ sign := by
  rintro rfl
  cases hsign.symm.trans hc

theorem standsForItself_upperHex {n : Nat} (h : n < 16) :
    standsForItself (Percent.upperHex n) = true := by
  revert n
  decide

/-- Only three kinds of characters are written. -/
theorem mem_encodeChar {c written : Char} (h : written ∈ encodeChar c) :
    standsForItself written = true ∨ written = '+' ∨ written = '%' := by
  unfold encodeChar at h
  split at h
  · exact Or.inr (Or.inl (List.mem_singleton.mp h))
  · split at h
    · next hself =>
        obtain rfl := List.mem_singleton.mp h
        exact Or.inl hself
    · obtain ⟨b, -, hb⟩ := List.mem_flatMap.mp h
      have hbyte : b.toNat < 256 := b.toNat_lt
      simp only [Percent.escapeByte, List.mem_cons, List.not_mem_nil, or_false] at hb
      rcases hb with rfl | rfl | rfl
      · exact Or.inr (Or.inr rfl)
      · exact Or.inl (standsForItself_upperHex (by omega))
      · exact Or.inl (standsForItself_upperHex (by omega))

theorem toNat_lt_of_mem_encode {cs : List Char} {written : Char} (h : written ∈ encode cs) :
    written.toNat < 0x80 := by
  obtain ⟨c, -, hc⟩ := List.mem_flatMap.mp h
  rcases mem_encodeChar hc with hself | rfl | rfl
  · exact toNat_lt_of_standsForItself hself
  · decide
  · decide

/-- A character that is not written is none of the bytes either. -/
theorem byte_ne_of_mem_encode (sign : Char) (hascii : sign.toNat < 0x80)
    (hself : standsForItself sign = false) (hplus : '+' ≠ sign) (hpercent : '%' ≠ sign)
    {cs : List Char} {b : UInt8} (h : b ∈ Text.encode (encode cs)) :
    b ≠ UInt8.ofNat sign.toNat := by
  obtain ⟨written, hwritten, hb⟩ := List.mem_flatMap.mp h
  have hlt := toNat_lt_of_mem_encode hwritten
  have hne : written ≠ sign := by
    obtain ⟨c, -, hc⟩ := List.mem_flatMap.mp hwritten
    rcases mem_encodeChar hc with hstands | rfl | rfl
    · exact ne_of_standsForItself hstands sign hself
    · exact hplus
    · exact hpercent
  rw [Text.utf8EncodeChar_of_lt hlt, List.mem_singleton] at hb
  rw [hb]
  exact Text.byte_ne hlt hascii hne

/-! ## Names and values -/

/-- The bytes that the bytes of a written text stand for. -/
def unescape (bytes : List UInt8) : List UInt8 := Percent.decode (bytes.map plusToSpace)

theorem unescape_escapeByte (b : UInt8) (rest : List UInt8) :
    unescape (Text.encode (Percent.escapeByte b) ++ rest) = b :: unescape rest := by
  have hbyte : b.toNat < 256 := b.toNat_lt
  have hmark : String.utf8EncodeChar '%' = [0x25] ∧ plusToSpace 0x25 = 0x25 := by decide
  have hdigit : ∀ n < 16, String.utf8EncodeChar (Percent.upperHex n) = [Percent.hexDigit n] ∧
      plusToSpace (Percent.hexDigit n) = Percent.hexDigit n := by decide
  obtain ⟨hhigh, hhigh'⟩ := hdigit (b.toNat / 16) (by omega)
  obtain ⟨hlow, hlow'⟩ := hdigit (b.toNat % 16) (by omega)
  have hescaped := Percent.decode_escaped b (rest.map plusToSpace)
  simpa [unescape, Percent.escapeByte, hmark, hhigh, hhigh', hlow, hlow'] using hescaped

theorem unescape_escapeBytes (bytes rest : List UInt8) :
    unescape (Text.encode (bytes.flatMap Percent.escapeByte) ++ rest) =
      bytes ++ unescape rest := by
  induction bytes with
  | nil => rfl
  | cons b later ih =>
      rw [List.flatMap_cons, Text.encode_append, List.append_assoc, unescape_escapeByte, ih,
        List.cons_append]

/-- A written character stands for the bytes of the character, whatever stands behind it. -/
theorem unescape_encodeChar (c : Char) (rest : List UInt8) :
    unescape (Text.encode (encodeChar c) ++ rest) = String.utf8EncodeChar c ++ unescape rest := by
  unfold encodeChar
  split
  · next hspace =>
      subst hspace
      exact Percent.decode_cons_of_ne (by decide) _
  · split
    · next hself =>
        have hlt := toNat_lt_of_standsForItself hself
        have hplus : UInt8.ofNat c.toNat ≠ 0x2B :=
          Text.byte_ne hlt (by decide) (ne_of_standsForItself hself '+' rfl)
        have hpercent : UInt8.ofNat c.toNat ≠ 0x25 :=
          Text.byte_ne hlt (by decide) (ne_of_standsForItself hself '%' rfl)
        rw [Text.encode_cons, Text.encode_nil, List.append_nil, Text.utf8EncodeChar_of_lt hlt]
        unfold unescape
        rw [List.singleton_append, List.map_cons, plusToSpace, if_neg hplus,
          Percent.decode_cons_of_ne hpercent]
        rfl
    · exact unescape_escapeBytes _ rest

theorem unescape_encode (cs : List Char) :
    unescape (Text.encode (encode cs)) = Text.encode cs := by
  induction cs with
  | nil => rfl
  | cons c later ih =>
      have hcons : encode (c :: later) = encodeChar c ++ encode later := rfl
      rw [hcons, Text.encode_append, unescape_encodeChar, ih, Text.encode_cons]

/-- A name or a value is read as it was before it was written. -/
theorem decode_encode (s : String) : decode (Text.encode (encode s.toList)) = s := by
  show String.ofList (Text.decodeLossy (unescape (Text.encode (encode s.toList)))) = s
  rw [unescape_encode, Text.decodeLossy_encode, String.ofList_toList]

/-! ## Pairs -/

theorem encode_encodePair (pair : Pair) :
    Text.encode (encodePair pair) =
      Text.encode (encode pair.1.toList) ++ 0x3D :: Text.encode (encode pair.2.toList) := by
  unfold encodePair
  rw [Text.encode_append, Text.encode_cons]
  rfl

theorem decodePair_encodePair (pair : Pair) :
    decodePair (Text.encode (encodePair pair)) = pair := by
  have hname : ∀ b ∈ Text.encode (encode pair.1.toList), (b == 0x3D) = false := fun b hb =>
    beq_eq_false_iff_ne.mpr
      (byte_ne_of_mem_encode '=' (by decide) (by decide) (by decide) (by decide) hb)
  unfold decodePair
  rw [encode_encodePair, Text.splitOnce_append_cons hname rfl]
  dsimp only
  rw [decode_encode, Option.getD_some, decode_encode]

/-- A pair is read as it was before it was written. -/
theorem pairs_encodePair (pair : Pair) : pairs (encodePair pair) = [pair] := by
  have hampersand (s : String) : ∀ b ∈ Text.encode (encode s.toList), (b == 0x26) = false :=
    fun b hb => beq_eq_false_iff_ne.mpr
      (byte_ne_of_mem_encode '&' (by decide) (by decide) (by decide) (by decide) hb)
  have hpair : ∀ b ∈ Text.encode (encodePair pair), (b == 0x26) = false := by
    intro b hb
    rw [encode_encodePair, List.mem_append, List.mem_cons] at hb
    rcases hb with hname | rfl | hvalue
    · exact hampersand pair.1 b hname
    · rfl
    · exact hampersand pair.2 b hvalue
  have hnonempty : (Text.encode (encodePair pair)).isEmpty = false := by simp [encode_encodePair]
  unfold pairs
  rw [Text.splitOn_of_forall hpair, List.filter_cons, hnonempty, Bool.not_false, if_pos rfl,
    List.filter_nil, List.map_cons, decodePair_encodePair, List.map_nil]

/-- An ampersand divides the pairs in front of it from those behind it. -/
theorem pairs_append_cons (cs later : List Char) :
    pairs (cs ++ '&' :: later) = pairs cs ++ pairs later := by
  have hampersand : String.utf8EncodeChar '&' = [0x26] := by decide
  unfold pairs
  rw [Text.encode_append, Text.encode_cons, hampersand, List.singleton_append,
    Text.splitOn_append_cons rfl, List.filter_append, List.map_append]

end Form

/-! ## Queries -/

namespace Url

/-- The pairs of the query of a URL. -/
def pairs (url : Url) : List Form.Pair := Form.pairs (url.query.getD [])

/-- A pair is put behind the others, and these are left as they are. -/
theorem pairs_addPair (pair : Form.Pair) (url : Url) :
    (url.addPair pair).pairs = url.pairs ++ [pair] := by
  unfold addPair pairs
  dsimp only
  rw [Option.getD_some]
  split
  · next hquery =>
      rw [hquery, Form.pairs_encodePair]
      rfl
  · next hquery =>
      rw [hquery, Form.pairs_encodePair]
      rfl
  · next query _ hquery => rw [hquery, Form.pairs_append_cons, Form.pairs_encodePair]; rfl

end Url

end MeshConsole
