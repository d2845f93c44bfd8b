import Mathlib.Data.UInt
import TableApi.Text.Utf8

/-!
# UTF-8 read back

A character is written as one byte, or as a byte that starts a sequence and up to three bytes that
continue it.  What a byte does is said once for each of the two kinds, `start` and `feed`, and the
four lengths follow: each character is read back as one piece, whatever comes behind it.

No byte behind the first one of a character starts a character.  An ASCII character is its own byte,
and no other character has such a byte among its bytes.
-/

namespace TableApi.Text.Utf8

/-! ## Single bytes -/

theorem toNat_ofNat_of_lt {code : Nat} (small : code < 256) : (UInt8.ofNat code).toNat = code := by
  rw [UInt8.toNat_ofNat']
  exact Nat.mod_eq_of_lt small

/-- A byte below 128 is a whole sequence. -/
theorem start_one {code : Nat} (small : code < 0x80) :
    start (UInt8.ofNat code) = ([.scalar (Char.ofNat code)], none) := by
  simp only [start, toNat_ofNat_of_lt (show code < 256 by omega), small, if_true]

theorem start_two {code : Nat} (least : 0xC2 ≤ code) (most : code < 0xE0) :
    start (UInt8.ofNat code) = ([], some ⟨1, 0x80, 0xBF, code - 0xC0, 1⟩) := by
  simp only [start, toNat_ofNat_of_lt (show code < 256 by omega), most, if_true,
    show ¬code < 0x80 by omega, show ¬code < 0xC2 by omega, if_false]

/-- The second of three bytes is bounded so that the character is not too small and no surrogate. -/
theorem start_three {code : Nat} (least : 0xE0 ≤ code) (most : code < 0xF0) :
    start (UInt8.ofNat code) =
      ([], some ⟨2, if code = 0xE0 then 0xA0 else 0x80, if code = 0xED then 0x9F else 0xBF,
        code - 0xE0, 1⟩) := by
  simp only [start, toNat_ofNat_of_lt (show code < 256 by omega), show ¬code < 0x80 by omega,
    show ¬code < 0xC2 by omega, show ¬code < 0xE0 by omega, if_false]
  by_cases first : code = 0xE0
  · simp [first]
  · by_cases surrogate : code = 0xED
    · simp [surrogate]
    · simp [first, surrogate, most]

/-- The second of four bytes is bounded so that the character is neither too small nor too large. -/
theorem start_four {code : Nat} (least : 0xF0 ≤ code) (most : code < 0xF5) :
    start (UInt8.ofNat code) =
      ([], some ⟨3, if code = 0xF0 then 0x90 else 0x80, if code = 0xF4 then 0x8F else 0xBF,
        code - 0xF0, 1⟩) := by
  simp only [start, toNat_ofNat_of_lt (show code < 256 by omega), show ¬code < 0x80 by omega,
    show ¬code < 0xC2 by omega, show ¬code < 0xE0 by omega, show ¬code = 0xE0 by omega,
    show ¬code = 0xED by omega, show ¬code < 0xF0 by omega, if_false]
  by_cases first : code = 0xF0
  · simp [first]
  · by_cases last : code = 0xF4
    · simp [last]
    · simp [first, last, show code < 0xF4 by omega]

section Continuing

variable {low high value taken code : Nat} (small : code < 256) (above : low ≤ code)
  (below : code ≤ high)

include small above below

/-- The last byte of a sequence makes it a character. -/
theorem feed_last :
    feed (some ⟨1, low, high, value, taken⟩) (UInt8.ofNat code) =
      ([.scalar (Char.ofNat (64 * value + code % 64))], none) := by
  simp [feed, toNat_ofNat_of_lt small, above, below]

/-- A byte in the middle of a sequence adds six bits to its value. -/
theorem feed_middle (needed : Nat) :
    feed (some ⟨needed + 2, low, high, value, taken⟩) (UInt8.ofNat code) =
      ([], some ⟨needed + 1, 0x80, 0xBF, 64 * value + code % 64, taken + 1⟩) := by
  simp [feed, toNat_ofNat_of_lt small, above, below]

end Continuing

/-! ## Characters -/

/-- A character is read as one piece. -/
theorem piecesAfter_encodeChar (character : Char) (rest : List UInt8) :
    piecesAfter none (encodeChar character ++ rest) =
      .scalar character :: piecesAfter none rest := by
  have whole := Char.ofNat_toNat character
  have valid : character.toNat < 0xD800 ∨ 0xDFFF < character.toNat ∧ character.toNat < 0x110000 :=
    character.valid
  simp only [encodeChar, String.utf8EncodeChar, Char.toNat_val]
  generalize character.toNat = code at whole valid
  by_cases one : code ≤ 0x7F
  · rw [if_pos one, List.singleton_append, piecesAfter, feed, start_one (by omega), whole]
    rfl
  by_cases two : code ≤ 0x7FF
  · have back : 64 * (code / 64 % 32 + 192 - 0xC0) + (code % 64 + 128) % 64 = code := by omega
    simp only [if_neg one, if_pos two, List.cons_append, List.nil_append, piecesAfter]
    rw [feed, start_two (by omega) (by omega)]
    dsimp only
    rw [feed_last (by omega) (by omega) (by omega), back, whole]
    rfl
  by_cases three : code ≤ 0xFFFF
  · have back : 64 * (64 * (code / 4096 % 16 + 224 - 0xE0) + (code / 64 % 64 + 128) % 64) +
        (code % 64 + 128) % 64 = code := by omega
    simp only [if_neg one, if_neg two, if_pos three, List.cons_append, List.nil_append, piecesAfter]
    rw [feed, start_three (by omega) (by omega)]
    dsimp only
    rw [feed_middle (by omega) (by split <;> omega) (by split <;> omega) 0]
    dsimp only
    rw [feed_last (by omega) (by omega) (by omega), back, whole]
    rfl
  · have back : 64 * (64 * (64 * (code / 262144 % 8 + 240 - 0xF0) +
        (code / 4096 % 64 + 128) % 64) + (code / 64 % 64 + 128) % 64) + (code % 64 + 128) % 64 =
          code := by omega
    simp only [if_neg one, if_neg two, if_neg three, List.cons_append, List.nil_append, piecesAfter]
    rw [feed, start_four (by omega) (by omega)]
    dsimp only
    rw [feed_middle (by omega) (by split <;> omega) (by split <;> omega) 1]
    dsimp only
    rw [feed_middle (by omega) (by omega) (by omega) 0]
    dsimp only
    rw [feed_last (by omega) (by omega) (by omega), back, whole]
    rfl

@[simp]
theorem encode_nil : encode [] = [] := rfl

@[simp]
theorem encode_cons (character : Char) (text : List Char) :
    encode (character :: text) = encodeChar character ++ encode text := rfl

@[simp]
theorem encode_append (first second : List Char) :
    encode (first ++ second) = encode first ++ encode second := by
  simp [encode]

theorem encode_eq_nil {text : List Char} : encode text = [] ↔ text = [] := by
  cases text with
  | nil => simp
  | cons character text => simp [encodeChar, String.utf8EncodeChar_ne_nil]

/-- The bytes of a text are read as its characters, whatever comes behind them. -/
theorem pieces_encode_append (text : List Char) (rest : List UInt8) :
    pieces (encode text ++ rest) = text.map Piece.scalar ++ pieces rest := by
  induction text with
  | nil => rfl
  | cons character text step =>
    simp only [pieces] at step ⊢
    rw [encode_cons, List.append_assoc, piecesAfter_encodeChar, step]
    rfl

theorem pieces_encode (text : List Char) : pieces (encode text) = text.map Piece.scalar := by
  have read := pieces_encode_append text []
  simpa [pieces, piecesAfter] using read

/-- The bytes of a text are read back as the text. -/
@[simp]
theorem decodeLossy_encode (text : List Char) : decodeLossy (encode text) = text := by
  rw [decodeLossy, pieces_encode, List.map_map]
  exact List.map_id text

theorem encode_injective {first second : List Char} (same : encode first = encode second) :
    first = second := by
  rw [← decodeLossy_encode first, same, decodeLossy_encode]

/-- Texts whose bytes start alike start alike. -/
theorem prefix_of_encode_prefix {mark text : List Char} (starts : encode mark <+: encode text) :
    mark <+: text := by
  rcases starts with ⟨rest, whole⟩
  have read := congrArg pieces whole
  rw [pieces_encode_append, pieces_encode] at read
  rcases List.map_eq_append_iff.1 read.symm with ⟨front, behind, rfl, same, -⟩
  have own : front = mark := List.map_injective_iff.2 (fun _ _ => Piece.scalar.inj) same
  exact own ▸ List.prefix_append front behind

/-! ## Bytes that start a character -/

/-- The bytes of a text start with a byte that starts a character. -/
theorem isUTF8FirstByte_of_encode {text : List Char} {byte : UInt8} {rest : List UInt8}
    (whole : encode text = byte :: rest) : byte.IsUTF8FirstByte := by
  cases text with
  | nil => cases whole
  | cons character text =>
    have start := UInt8.isUTF8FirstByte_getElem_zero_utf8EncodeChar (c := character)
    rw [encode_cons, encodeChar] at whole
    cases bytes : String.utf8EncodeChar character with
    | nil => exact absurd bytes String.utf8EncodeChar_ne_nil
    | cons first others =>
      simp only [bytes, List.getElem_cons_zero] at start
      rw [bytes, List.cons_append] at whole
      exact (List.cons.inj whole).1 ▸ start

/-- No byte behind the first one of a character starts a character. -/
theorem not_isUTF8FirstByte_of_drop {character : Char} {offset : Nat} {byte : UInt8}
    {rest : List UInt8} (behind : 0 < offset)
    (within : (encodeChar character).drop offset = byte :: rest) : ¬byte.IsUTF8FirstByte := by
  have small : offset < (String.utf8EncodeChar character).length := by
    by_contra large
    rw [encodeChar, List.drop_eq_nil_of_le (by omega)] at within
    cases within
  rw [encodeChar, List.drop_eq_getElem_cons small] at within
  rw [← (List.cons.inj within).1, UInt8.isUTF8FirstByte_getElem_utf8EncodeChar]
  omega

/-! ## ASCII characters -/

theorem encodeChar_of_ascii {character : Char} (ascii : character.toNat < 0x80) :
    encodeChar character = [UInt8.ofNat character.toNat] := by
  simp only [encodeChar, String.utf8EncodeChar, Char.toNat_val]
  rw [if_pos (by omega)]

/-- The bytes of any other character are no ASCII characters. -/
theorem le_of_mem_encodeChar {character : Char} (other : 0x80 ≤ character.toNat) {byte : UInt8}
    (member : byte ∈ encodeChar character) : 0x80 ≤ byte.toNat := by
  simp only [encodeChar, String.utf8EncodeChar, Char.toNat_val] at member
  rw [if_neg (by omega)] at member
  have bounds : ∀ code, 0x80 ≤ code → code < 256 → byte = UInt8.ofNat code → 0x80 ≤ byte.toNat := by
    rintro code least small rfl
    rwa [toNat_ofNat_of_lt small]
  split at member
  · simp only [List.mem_cons, List.not_mem_nil, or_false] at member
    rcases member with first | second
    · exact bounds _ (by omega) (by omega) first
    · exact bounds _ (by omega) (by omega) second
  split at member
  · simp only [List.mem_cons, List.not_mem_nil, or_false] at member
    rcases member with first | second | third
    · exact bounds _ (by omega) (by omega) first
    · exact bounds _ (by omega) (by omega) second
    · exact bounds _ (by omega) (by omega) third
  · simp only [List.mem_cons, List.not_mem_nil, or_false] at member
    rcases member with first | second | third | fourth
    · exact bounds _ (by omega) (by omega) first
    · exact bounds _ (by omega) (by omega) second
    · exact bounds _ (by omega) (by omega) third
    · exact bounds _ (by omega) (by omega) fourth

/-- The byte of an ASCII character stands among the bytes of a text only where the text has that
character. -/
theorem mem_encode_iff {mark : Char} (ascii : mark.toNat < 0x80) {text : List Char} :
    UInt8.ofNat mark.toNat ∈ encode text ↔ mark ∈ text := by
  induction text with
  | nil => simp
  | cons character text step =>
    rw [encode_cons, List.mem_append, step, List.mem_cons]
    apply or_congr_left
    by_cases plain : character.toNat < 0x80
    · rw [encodeChar_of_ascii plain, List.mem_singleton]
      constructor
      · intro same
        have codes := congrArg UInt8.toNat same
        rw [toNat_ofNat_of_lt (by omega), toNat_ofNat_of_lt (by omega)] at codes
        exact Char.toNat_inj.1 codes
      · rintro rfl
        rfl
    · constructor
      · intro member
        have large := le_of_mem_encodeChar (by omega) member
        rw [toNat_ofNat_of_lt (by omega)] at large
        omega
      · rintro rfl
        omega

end TableApi.Text.Utf8
