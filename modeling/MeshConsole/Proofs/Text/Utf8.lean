import MeshConsole.Text.Utf8
import Mathlib.Tactic.SplitIfs

/-!
# Texts as bytes and back

The bytes of a character are read as that character, whatever stands behind them
(`piecesFrom_utf8EncodeChar`), so the bytes of a text are read as that text:

    text ──encode──▶ bytes ──decodeLossy, decode?──▶ the same text
-/

namespace MeshConsole.Text

/-! ## First bytes -/

variable {b : Nat}

theorem firstByte_one (h : b < 0x80) : firstByte b = .whole (Char.ofNat b) := by
  unfold firstByte
  rw [if_pos h]

theorem firstByte_two (hleast : 0xC2 ≤ b) (hmost : b < 0xE0) :
    firstByte b = .opens ⟨1, 0x80, 0xBF, b - 0xC0⟩ := by
  unfold firstByte
  rw [if_neg (by omega), if_neg (by omega), if_pos hmost]

/-- Two of the first bytes of three restrict the second one: it must not make the character so small
that it has a shorter spelling, nor a surrogate. -/
theorem firstByte_three (hleast : 0xE0 ≤ b) (hmost : b < 0xF0) :
    firstByte b =
      .opens ⟨2, if b = 0xE0 then 0xA0 else 0x80, if b = 0xED then 0x9F else 0xBF, b - 0xE0⟩ := by
  unfold firstByte
  rw [if_neg (by omega), if_neg (by omega), if_neg (by omega)]
  split_ifs <;> simp_all

/-- Two of the first bytes of four restrict the second one: it must not make the character so small
that it has a shorter spelling, nor too large for a character. -/
theorem firstByte_four (hleast : 0xF0 ≤ b) (hmost : b ≤ 0xF4) :
    firstByte b =
      .opens ⟨3, if b = 0xF0 then 0x90 else 0x80, if b = 0xF4 then 0x8F else 0xBF, b - 0xF0⟩ := by
  unfold firstByte
  rw [if_neg (by omega), if_neg (by omega), if_neg (by omega), if_neg (by omega), if_neg (by omega),
    if_neg (by omega)]
  split_ifs <;> first | omega | simp_all

/-! ## Characters -/

theorem toNat_ofNat_of_lt {n : Nat} (h : n < 0x100) : (UInt8.ofNat n).toNat = n := by
  rw [UInt8.toNat_ofNat', Nat.mod_eq_of_lt h]

theorem piecesFrom_first {n : Nat} {char : OpenChar} (hn : n < 0x100)
    (h : firstByte n = .opens char) (bs : List UInt8) :
    piecesFrom none (UInt8.ofNat n :: bs) = piecesFrom (some char) bs := by
  rw [piecesFrom, toNat_ofNat_of_lt hn, h]

/-- A later byte adds the six bits that it carries. -/
theorem piecesFrom_later {owed low high value n : Nat} (hlow : low ≤ n % 64 + 0x80)
    (hhigh : n % 64 + 0x80 ≤ high) (bs : List UInt8) :
    piecesFrom (some ⟨owed, low, high, value⟩) (UInt8.ofNat (n % 64 + 0x80) :: bs) =
      if owed ≤ 1 then some (Char.ofNat (value * 64 + n % 64)) :: piecesFrom none bs
      else piecesFrom (some ⟨owed - 1, 0x80, 0xBF, value * 64 + n % 64⟩) bs := by
  have hbyte : (UInt8.ofNat (n % 64 + 0x80)).toNat = n % 64 + 0x80 := toNat_ofNat_of_lt (by omega)
  have hbits : (n % 64 + 0x80) % 64 = n % 64 := by omega
  rw [piecesFrom, hbyte, if_pos (by simpa [OpenChar.accepts] using ⟨hlow, hhigh⟩)]
  simp [OpenChar.push, hbits, Nat.sub_eq_zero_iff_le]

/-- The bytes of a character are read as that character, whatever stands behind them. -/
theorem piecesFrom_utf8EncodeChar (c : Char) (bs : List UInt8) :
    piecesFrom none (String.utf8EncodeChar c ++ bs) = some c :: piecesFrom none bs := by
  have hvalid : c.val.toNat < 0xD800 ∨ 0xDFFF < c.val.toNat ∧ c.val.toNat < 0x110000 := c.valid
  have hchar : Char.ofNat c.val.toNat = c := c.ofNat_toNat
  unfold String.utf8EncodeChar
  dsimp only
  generalize c.val.toNat = v at hvalid hchar ⊢
  subst hchar
  -- Put together again, the bits that the bytes carry are those of the character.
  split_ifs with hone htwo hthree
  · rw [List.singleton_append, piecesFrom, toNat_ofNat_of_lt (by omega), firstByte_one (by omega)]
  · have hbits : (v / 64 % 32 + 0xC0 - 0xC0) * 64 + v % 64 = v := by omega
    simp only [List.cons_append, List.nil_append]
    rw [piecesFrom_first (by omega) (firstByte_two (by omega) (by omega)),
      piecesFrom_later (by omega) (by omega), if_pos (Nat.le_refl 1), hbits]
  · have hbits : ((v / 4096 % 16 + 0xE0 - 0xE0) * 64 + v / 64 % 64) * 64 + v % 64 = v := by omega
    simp only [List.cons_append, List.nil_append]
    rw [piecesFrom_first (by omega) (firstByte_three (by omega) (by omega)),
      piecesFrom_later (by split_ifs <;> omega) (by split_ifs <;> omega), if_neg (by decide),
      piecesFrom_later (by omega) (by omega), if_pos (Nat.le_refl 1), hbits]
  · have hbits : (((v / 262144 % 8 + 0xF0 - 0xF0) * 64 + v / 4096 % 64) * 64 + v / 64 % 64) * 64 +
        v % 64 = v := by omega
    simp only [List.cons_append, List.nil_append]
    rw [piecesFrom_first (by omega) (firstByte_four (by omega) (by omega)),
      piecesFrom_later (by split_ifs <;> omega) (by split_ifs <;> omega), if_neg (by decide),
      piecesFrom_later (by omega) (by omega), if_neg (by decide),
      piecesFrom_later (by omega) (by omega), if_pos (Nat.le_refl 1), hbits]

/-! ## Texts -/

theorem encode_append (cs ds : List Char) : encode (cs ++ ds) = encode cs ++ encode ds :=
  List.flatMap_append

theorem length_encode_cons (c : Char) (cs : List Char) :
    (encode (c :: cs)).length = c.utf8Size + (encode cs).length := by
  rw [encode_cons, List.length_append, String.length_utf8EncodeChar]

theorem pieces_encode (cs : List Char) : pieces (encode cs) = cs.map some := by
  unfold pieces
  induction cs with
  | nil => rfl
  | cons c cs ih => rw [encode_cons, piecesFrom_utf8EncodeChar, ih, List.map_cons]

theorem decodeLossy_encode (cs : List Char) : decodeLossy (encode cs) = cs := by
  unfold decodeLossy
  rw [pieces_encode, List.map_map]
  exact List.map_id cs

theorem decode?_encode (cs : List Char) : decode? (encode cs) = some cs := by
  unfold decode?
  rw [pieces_encode]
  induction cs with
  | nil => rfl
  | cons c cs ih =>
      rw [List.map_cons, List.mapM_cons, ih]
      rfl

end MeshConsole.Text
