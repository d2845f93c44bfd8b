import TableApi.Proofs.Text.Cutting
import TableApi.Proofs.Text.Utf8
import TableApi.Text.Percent

/-!
# Encoded components read back and searched

An encoded text holds no character but the percent sign, letters, digits and four marks, so every
separator of a query string stands out in it, and decoding gives the text back.

A reader may also look for an escape in a text that is still encoded, in capitals.  The percent
sign starts an escape and nothing else, so the search passes over the characters one by one, and the
escape of a character is found where that character is: `cut?_formEncode`.
-/

namespace TableApi.Text

/-- A byte in an encoded text. -/
def formByte (byte : UInt8) : List Char :=
  if isUnreserved byte then [Char.ofNat byte.toNat] else escapeByte byte

theorem formEncode_eq (text : List Char) : formEncode text = (Utf8.encode text).flatMap formByte :=
  rfl

@[simp]
theorem formEncode_nil : formEncode [] = [] := rfl

@[simp]
theorem formEncode_append (first second : List Char) :
    formEncode (first ++ second) = formEncode first ++ formEncode second := by
  simp [formEncode_eq]

theorem formEncode_cons (character : Char) (text : List Char) :
    formEncode (character :: text) = formEncode [character] ++ formEncode text :=
  formEncode_append [character] text

/-! ## The characters of an encoded text -/

/-- Whether a character may stand in an encoded text. -/
def isEncoded (character : Char) : Bool :=
  character.isAlphanum || character == '-' || character == '.' || character == '_' ||
    character == '~' || character == '%'

theorem hexDigit_facts : ∀ value < 16,
    isEncoded (hexDigit value) = true ∧ hexDigit value ≠ '%' ∧
      (hexDigit value).toUpper = hexDigit value ∧
      hexValue? (UInt8.ofNat (hexDigit value).toNat) = some (UInt8.ofNat value) := by
  decide

theorem hexDigit_injective : ∀ first < 16, ∀ second < 16,
    hexDigit first = hexDigit second → first = second := by
  decide

/-- The two digits of a byte are digits. -/
theorem digits_lt (byte : UInt8) : byte.toNat / 16 < 16 ∧ byte.toNat % 16 < 16 := by
  have small := byte.toNat_lt
  omega

theorem isEncoded_of_mem_formByte {byte : UInt8} {character : Char}
    (member : character ∈ formByte byte) : isEncoded character = true := by
  rw [formByte] at member
  split at member
  · rename_i unreserved
    rw [List.mem_singleton.1 member]
    simp only [isUnreserved] at unreserved
    simp [isEncoded, unreserved]
  · rcases digits_lt byte with ⟨high, low⟩
    simp only [escapeByte, List.mem_cons, List.not_mem_nil, or_false] at member
    rcases member with rfl | rfl | rfl
    · decide
    · exact (hexDigit_facts _ high).1
    · exact (hexDigit_facts _ low).1

theorem isEncoded_of_mem {text : List Char} {character : Char}
    (member : character ∈ formEncode text) : isEncoded character = true := by
  rcases List.mem_flatMap.1 member with ⟨byte, _, inside⟩
  exact isEncoded_of_mem_formByte inside

/-- A character that is not encoded as itself does not stand in an encoded text. -/
theorem not_mem_formEncode {mark : Char} (other : isEncoded mark = false) (text : List Char) :
    mark ∉ formEncode text := by
  intro member
  rw [isEncoded_of_mem member] at other
  simp at other

theorem toNat_lt_of_isAlphanum {character : Char} (alphanumeric : character.isAlphanum = true) :
    character.toNat < 0x80 := by
  delta Char.isAlphanum Char.isAlpha Char.isUpper Char.isLower Char.isDigit at alphanumeric
  simp only [Bool.or_eq_true, Bool.and_eq_true, decide_eq_true_eq, UInt32.le_iff_toNat_le,
    ge_iff_le] at alphanumeric
  have code : character.toNat = character.val.toNat := rfl
  have capital : 'Z'.val.toNat = 90 := rfl
  have small : 'z'.val.toNat = 122 := rfl
  have digit : '9'.val.toNat = 57 := rfl
  omega

theorem toNat_lt_of_isEncoded {character : Char} (encoded : isEncoded character = true) :
    character.toNat < 0x80 := by
  simp only [isEncoded, Bool.or_eq_true, beq_iff_eq] at encoded
  rcases encoded with ((((alphanumeric | rfl) | rfl) | rfl) | rfl) | rfl
  · exact toNat_lt_of_isAlphanum alphanumeric
  all_goals decide

/-- An encoded text in capitals is made of the same characters, and has the same percent signs. -/
theorem isEncoded_toUpper {character : Char} (encoded : isEncoded character = true) :
    isEncoded character.toUpper = true ∧ (character.toUpper = '%' → character = '%') := by
  have all : ∀ code < 0x80, isEncoded (Char.ofNat code) = true →
      isEncoded (Char.ofNat code).toUpper = true ∧
        ((Char.ofNat code).toUpper = '%' → Char.ofNat code = '%') := by decide
  have found := all character.toNat (toNat_lt_of_isEncoded encoded)
  rw [Char.ofNat_toNat] at found
  exact found encoded

/-! ## Decoding -/

/-- A byte that is no percent sign stands for itself. -/
theorem unescapeBytes_cons {byte : UInt8} (plain : byte ≠ 0x25) (rest : List UInt8) :
    unescapeBytes (byte :: rest) = byte :: unescapeBytes rest := by
  rcases rest with _ | ⟨high, _ | ⟨low, rest⟩⟩
  · rfl
  · rfl
  · simp [unescapeBytes, escaped?, plain]

/-- The bytes of characters that stand in an encoded text. -/
theorem encode_of_isEncoded {text : List Char}
    (encoded : ∀ character ∈ text, isEncoded character = true) :
    Utf8.encode text = text.map fun character => UInt8.ofNat character.toNat := by
  induction text with
  | nil => rfl
  | cons character text step =>
    rw [Utf8.encode_cons, step fun other member => encoded other (List.mem_cons_of_mem _ member),
      Utf8.encodeChar_of_ascii (toNat_lt_of_isEncoded (encoded character List.mem_cons_self))]
    rfl

/-- An unreserved byte is its own character, and no percent sign. -/
theorem toNat_of_isUnreserved {byte : UInt8} (unreserved : isUnreserved byte = true) :
    UInt8.ofNat (Char.ofNat byte.toNat).toNat = byte ∧ byte ≠ 0x25 := by
  constructor
  · have small := byte.toNat_lt
    have valid : byte.toNat.isValidChar := Or.inl (by omega)
    have code : (Char.ofNat byte.toNat).toNat = byte.toNat := by
      rw [Char.ofNat, dif_pos valid]
      rfl
    rw [code, UInt8.ofNat_toNat]
  · rintro rfl
    revert unreserved
    decide

/-- An encoded byte stands for that byte. -/
theorem unescapeBytes_formByte (byte : UInt8) (rest : List UInt8) :
    unescapeBytes (Utf8.encode (formByte byte) ++ rest) = byte :: unescapeBytes rest := by
  rw [encode_of_isEncoded fun _ => isEncoded_of_mem_formByte, formByte]
  split
  · rename_i unreserved
    rcases toNat_of_isUnreserved unreserved with ⟨back, plain⟩
    rw [List.map_singleton, back]
    exact unescapeBytes_cons plain rest
  · rcases digits_lt byte with ⟨high, low⟩
    have sum : 16 * UInt8.ofNat (byte.toNat / 16) + UInt8.ofNat (byte.toNat % 16) = byte := by
      rw [← UInt8.toNat_inj]
      have small := byte.toNat_lt
      simp only [UInt8.toNat_add, UInt8.toNat_mul, UInt8.toNat_ofNat', UInt8.reduceToNat]
      omega
    have value : escaped? (UInt8.ofNat '%'.toNat) (UInt8.ofNat (hexDigit (byte.toNat / 16)).toNat)
        (UInt8.ofNat (hexDigit (byte.toNat % 16)).toNat) = some byte := by
      have sign : UInt8.ofNat '%'.toNat = 0x25 := by decide
      rw [escaped?, if_pos sign, (hexDigit_facts _ high).2.2.2, (hexDigit_facts _ low).2.2.2]
      exact congrArg some sum
    simp only [escapeByte, List.map_cons, List.map_nil, List.cons_append, List.nil_append]
    rw [unescapeBytes, value]

theorem unescapeBytes_formEncode (text : List Char) :
    unescapeBytes (Utf8.encode (formEncode text)) = Utf8.encode text := by
  rw [formEncode_eq]
  induction Utf8.encode text with
  | nil => rfl
  | cons byte bytes step =>
    rw [List.flatMap_cons, Utf8.encode_append, unescapeBytes_formByte, step]

/-- An encoded text is read back as the text. -/
@[simp]
theorem formDecode_formEncode (text : List Char) : formDecode (formEncode text) = text := by
  have unchanged : ((formEncode text).map fun character =>
      if character = '+' then ' ' else character) = (formEncode text).map id := by
    apply List.map_congr_left
    intro character member
    rw [if_neg, id]
    rintro rfl
    exact not_mem_formEncode (by decide) text member
  rw [List.map_id] at unchanged
  rw [formDecode, unchanged, unescapeBytes_formEncode, Utf8.decodeLossy_encode]

theorem formEncode_eq_nil {text : List Char} : formEncode text = [] ↔ text = [] := by
  constructor
  · intro empty
    rw [← formDecode_formEncode text, empty]
    decide
  · rintro rfl
    rfl

/-! ## Escapes looked for in capitals -/

/-- An escape is in capitals already. -/
@[simp]
theorem toUpper_escapeByte (byte : UInt8) :
    (escapeByte byte).map Char.toUpper = escapeByte byte := by
  rcases digits_lt byte with ⟨high, low⟩
  have sign : '%'.toUpper = '%' := by decide
  simp [escapeByte, sign, (hexDigit_facts _ high).2.2.1, (hexDigit_facts _ low).2.2.1]

/-- Different bytes have different escapes. -/
theorem escapeByte_injective {first second : UInt8} (same : escapeByte first = escapeByte second) :
    first = second := by
  rcases digits_lt first with ⟨firstHigh, firstLow⟩
  rcases digits_lt second with ⟨secondHigh, secondLow⟩
  simp only [escapeByte, List.cons.injEq, true_and, and_true] at same
  have high := hexDigit_injective _ firstHigh _ secondHigh same.1
  have low := hexDigit_injective _ firstLow _ secondLow same.2
  rw [← UInt8.toNat_inj]
  omega

/-- The search for the escape of a byte, with `more` behind it, does not stop at the escape of
another byte. -/
theorem cut?_escapeByte {sought byte : UInt8} {more rest : List Char}
    (apart : ¬escapeByte sought ++ more <+: escapeByte byte ++ rest) :
    cut? (escapeByte sought ++ more) (escapeByte byte ++ rest) =
      (cut? (escapeByte sought ++ more) rest).map fun cut =>
        (escapeByte byte ++ cut.1, cut.2) := by
  rcases digits_lt byte with ⟨high, low⟩
  have digits : '%' ∉ [hexDigit (byte.toNat / 16), hexDigit (byte.toNat % 16)] := by
    simp [(hexDigit_facts _ high).2.1.symm, (hexDigit_facts _ low).2.1.symm]
  have passed : cut? (escapeByte sought ++ more) _ = _ := cut?_append digits rest
  refine (cut?_cons apart).trans ((congrArg (Option.map _) passed).trans ?_)
  rw [Option.map_map]
  rfl

/-- The search for the escape of a byte, with `more` behind it, passes over every other byte. -/
theorem cut?_formByte {sought byte : UInt8} (other : byte ≠ sought) (more rest : List Char) :
    cut? (escapeByte sought ++ more) ((formByte byte).map Char.toUpper ++ rest) =
      (cut? (escapeByte sought ++ more) rest).map fun cut =>
        ((formByte byte).map Char.toUpper ++ cut.1, cut.2) := by
  rw [formByte]
  split
  · rename_i unreserved
    have own : Char.ofNat byte.toNat ∈ formByte byte := by simp [formByte, unreserved]
    have encoded := isEncoded_of_mem_formByte own
    have plain : '%' ∉ [(Char.ofNat byte.toNat).toUpper] := by
      intro member
      have sign := (isEncoded_toUpper encoded).2 (List.mem_singleton.1 member).symm
      rcases toNat_of_isUnreserved unreserved with ⟨back, other⟩
      exact other (by rw [← back, sign]; decide)
    exact cut?_append plain rest
  · rw [toUpper_escapeByte]
    apply cut?_escapeByte
    intro starts
    have same := List.prefix_of_prefix_length_le
      ((List.prefix_append _ _).trans starts) (List.prefix_append _ _) (by simp [escapeByte])
    exact other (escapeByte_injective (same.eq_of_length (by simp [escapeByte]))).symm

theorem cut?_flatMap_formByte {sought : UInt8} {bytes : List UInt8} (absent : sought ∉ bytes)
    (more rest : List Char) :
    cut? (escapeByte sought ++ more) ((bytes.flatMap formByte).map Char.toUpper ++ rest) =
      (cut? (escapeByte sought ++ more) rest).map fun cut =>
        ((bytes.flatMap formByte).map Char.toUpper ++ cut.1, cut.2) := by
  induction bytes with
  | nil => simp
  | cons byte bytes step =>
    have later := step fun member => absent (List.mem_cons_of_mem _ member)
    have other : byte ≠ sought := fun same => absent (by simp [same])
    rw [List.flatMap_cons, List.map_append, List.append_assoc, cut?_formByte other, later]
    simp [Function.comp_def]

/-! ## Escapes of characters -/

/-- Whether a character is ASCII and its byte is written as an escape. -/
structure IsReserved (mark : Char) : Prop where
  ascii : mark.toNat < 0x80
  escaped : isUnreserved (UInt8.ofNat mark.toNat) = false

section Reserved

variable {mark : Char} (reserved : IsReserved mark)

include reserved

theorem formEncode_singleton : formEncode [mark] = escapeByte (UInt8.ofNat mark.toNat) := by
  simp [formEncode_eq, Utf8.encodeChar_of_ascii reserved.ascii, formByte, reserved.escaped]

theorem toUpper_formEncode_singleton :
    (formEncode [mark]).map Char.toUpper = formEncode [mark] := by
  rw [formEncode_singleton reserved, toUpper_escapeByte]

/-- The search for the escape of a character, with `more` behind it, passes over a character unless
it is the one and has `more` behind it. -/
theorem cut?_formEncode_singleton {character : Char} {more rest : List Char}
    (apart : character = mark → ¬more <+: rest) :
    cut? (formEncode [mark] ++ more) ((formEncode [character]).map Char.toUpper ++ rest) =
      (cut? (formEncode [mark] ++ more) rest).map fun cut =>
        ((formEncode [character]).map Char.toUpper ++ cut.1, cut.2) := by
  by_cases same : character = mark
  · subst same
    rw [toUpper_formEncode_singleton reserved, formEncode_singleton reserved]
    apply cut?_escapeByte
    rw [List.prefix_append_right_inj]
    exact apart rfl
  · have absent : UInt8.ofNat mark.toNat ∉ Utf8.encode [character] := by
      rw [Utf8.mem_encode_iff reserved.ascii, List.mem_singleton]
      exact fun equal => same equal.symm
    rw [formEncode_singleton reserved]
    exact cut?_flatMap_formByte absent more rest

/-- The search for the escape of a character, with `more` behind it, passes over an encoded text in
which no occurrence of the character has `more` behind it. -/
theorem cut?_formEncode {more text rest : List Char}
    (apart : ∀ before after, text = before ++ mark :: after →
      ¬more <+: (formEncode after).map Char.toUpper ++ rest) :
    cut? (formEncode [mark] ++ more) ((formEncode text).map Char.toUpper ++ rest) =
      (cut? (formEncode [mark] ++ more) rest).map fun cut =>
        ((formEncode text).map Char.toUpper ++ cut.1, cut.2) := by
  induction text with
  | nil => simp
  | cons character text step =>
    have later := step fun before after same =>
      apart (character :: before) after (by rw [same]; rfl)
    have here : character = mark → ¬more <+: (formEncode text).map Char.toUpper ++ rest := by
      rintro rfl
      exact apart [] text rfl
    rw [formEncode_cons character, List.map_append, List.append_assoc,
      cut?_formEncode_singleton reserved here, later]
    simp [Function.comp_def]

end Reserved

end TableApi.Text
