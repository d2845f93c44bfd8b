import TableApi.Proofs.Text.Cutting
import TableApi.Proofs.Text.Utf8

/-!
# First occurrences, among characters and among bytes

A cut gives the text before and behind the first occurrence of its mark, and no cut means that the
mark does not occur: `cut?_eq_some_iff` and `cut?_eq_none_iff`.  The characters of the text may
count as others do, as small letters do where a mark is written in capitals.  So `FirstCut` takes
the change of characters as `fold`.

A search may also run over the bytes of such a changed copy while the pieces are taken from the
bytes of the text itself.  No character starts inside the bytes of another one, so a mark stands in
the bytes only where it stands in the characters (`standsAt_iff`).  If `fold` changes no size, an
offset found in the copy lies between two characters of the text (`isValid_of_standsAt`), and the
bytes are cut where the characters are (`firstCut_iff_bytesCut`).
-/

namespace TableApi.Text

/-! ## Among characters -/

/-- A mark occurs in a text whose characters count as `fold` takes them. -/
def Occurs (fold : Char → Char) (mark text : List Char) : Prop :=
  ∃ sign, sign.map fold = mark ∧ sign <:+: text

/-- A text is cut at its first occurrence of a mark, where its characters count as `fold` takes
them. -/
structure FirstCut (fold : Char → Char) (mark text before after : List Char) : Prop where
  whole : ∃ sign, sign.map fold = mark ∧ text = before ++ sign ++ after
  first : ∀ start sign rest, sign.map fold = mark → text = start ++ sign ++ rest →
    before.length ≤ start.length

section Characters

variable {fold : Char → Char} {mark text before after : List Char}

theorem FirstCut.occurs (cut : FirstCut fold mark text before after) : Occurs fold mark text := by
  rcases cut.whole with ⟨sign, same, rfl⟩
  exact ⟨sign, same, before, after, rfl⟩

/-- There is only one place to cut. -/
theorem FirstCut.unique {start rest : List Char} (cut : FirstCut fold mark text before after)
    (other : FirstCut fold mark text start rest) : before = start ∧ after = rest := by
  rcases cut.whole with ⟨sign, same, whole⟩
  rcases other.whole with ⟨twin, again, rewhole⟩
  have length : before.length = start.length :=
    Nat.le_antisymm (cut.first _ _ _ again rewhole) (other.first _ _ _ same whole)
  have size : sign.length = twin.length := by
    rw [← List.length_map fold, same, ← again, List.length_map]
  rw [whole, List.append_assoc, List.append_assoc] at rewhole
  rcases List.append_inj rewhole length with ⟨front, behind⟩
  exact ⟨front, (List.append_inj behind size).2⟩

/-- What cuts only at first occurrences, and whenever there is one, cuts at the first occurrence. -/
theorem FirstCut.eq_some_iff {found : Option (List Char × List Char)}
    (sound : ∀ before after, found = some (before, after) → FirstCut fold mark text before after)
    (complete : found = none → ¬Occurs fold mark text) :
    found = some (before, after) ↔ FirstCut fold mark text before after := by
  refine ⟨sound before after, fun cut => ?_⟩
  cases same : found with
  | none => exact absurd cut.occurs (complete same)
  | some parts =>
    rcases cut.unique (sound parts.1 parts.2 same) with ⟨rfl, rfl⟩
    rfl

theorem occurs_id : Occurs id mark text ↔ mark <:+: text := by
  simp [Occurs]

/-- A character of a mark stands in a text with the mark if only it counts as that character. -/
theorem Occurs.mem (occurs : Occurs fold mark text) {character : Char}
    (member : character ∈ mark) (own : ∀ other, fold other = character → other = character) :
    character ∈ text := by
  rcases occurs with ⟨sign, rfl, inside⟩
  rcases List.mem_map.1 member with ⟨other, within, same⟩
  rw [← own other same]
  exact inside.subset within

/-- A text that starts with the mark is cut there. -/
theorem cut?_of_append {character : Char} {rest : List Char}
    (lead : mark ++ after = character :: rest) :
    cut? mark (character :: rest) = some ([], after) := by
  have found := dropLead?_append mark after
  rw [lead, dropLead?] at found
  simp [cut?, found]

theorem cut?_eq_none_iff : cut? mark text = none ↔ ¬mark <:+: text := by
  induction text with
  | nil => cases mark <;> simp [cut?]
  | cons character rest step =>
    by_cases starts : mark <+: character :: rest
    · rcases starts with ⟨after, lead⟩
      rw [cut?_of_append lead, ← lead]
      simpa using (List.prefix_append mark after).isInfix
    · rw [cut?_cons starts, Option.map_eq_none_iff, step, List.infix_cons_iff]
      simp [starts]

/-- A cut passes over no occurrence of its mark. -/
theorem length_le_of_cut? {start rest : List Char} (found : cut? mark text = some (before, after))
    (whole : text = start ++ mark ++ rest) : before.length ≤ start.length := by
  induction text generalizing before start with
  | nil =>
    have nothing := append_of_cut? found
    simp only [List.append_eq_nil_iff] at nothing
    simp [nothing.1.1]
  | cons character text step =>
    by_cases starts : mark <+: character :: text
    · rcases starts with ⟨behind, lead⟩
      rw [cut?_of_append lead, Option.some.injEq, Prod.mk.injEq] at found
      simp [← found.1]
    · cases start with
      | nil => exact absurd ⟨rest, whole.symm⟩ starts
      | cons first start =>
        rw [cut?_cons starts, Option.map_eq_some_iff] at found
        rcases found with ⟨⟨inner, outer⟩, cut, same⟩
        obtain ⟨rfl, rfl⟩ := Prod.mk.inj same
        have later := step cut (List.cons.inj whole).2
        simpa using later

theorem firstCut_of_cut? (found : cut? mark text = some (before, after)) :
    FirstCut id mark text before after := by
  refine ⟨⟨mark, List.map_id mark, (append_of_cut? found).symm⟩, ?_⟩
  intro start sign rest same whole
  rw [List.map_id] at same
  exact length_le_of_cut? found (same ▸ whole)

/-- A cut is made at the first occurrence of its mark. -/
theorem cut?_eq_some_iff :
    cut? mark text = some (before, after) ↔ FirstCut id mark text before after := by
  apply FirstCut.eq_some_iff
  · intro before after found
    exact firstCut_of_cut? found
  · rw [cut?_eq_none_iff, occurs_id]
    exact id

/-- A mark occurs in a changed copy where it occurs in the text. -/
theorem map_eq_append_iff {start rest : List Char} :
    text.map fold = start ++ mark ++ rest ↔ ∃ before sign after,
      text = before ++ sign ++ after ∧ before.map fold = start ∧ sign.map fold = mark ∧
        after.map fold = rest := by
  constructor
  · intro whole
    rcases List.map_eq_append_iff.1 whole with ⟨front, after, rfl, lead, behind⟩
    rcases List.map_eq_append_iff.1 lead with ⟨before, sign, rfl, first, same⟩
    exact ⟨before, sign, after, rfl, first, same, behind⟩
  · rintro ⟨before, sign, after, rfl, rfl, rfl, rfl⟩
    simp

theorem infix_map_iff : mark <:+: text.map fold ↔ Occurs fold mark text := by
  constructor
  · rintro ⟨start, rest, whole⟩
    rcases map_eq_append_iff.1 whole.symm with ⟨before, sign, after, rfl, -, same, -⟩
    exact ⟨sign, same, before, after, rfl⟩
  · rintro ⟨sign, rfl, inside⟩
    exact inside.map fold

end Characters

/-! ## Among bytes -/

/-- The bytes of a mark stand among those of a text from this offset on. -/
def StandsAt (mark text : List Char) (offset : Nat) : Prop :=
  Utf8.encode mark <+: (Utf8.encode text).drop offset

instance (mark text : List Char) (offset : Nat) : Decidable (StandsAt mark text offset) :=
  inferInstanceAs (Decidable (Utf8.encode mark <+: (Utf8.encode text).drop offset))

/-- The bytes of a text are cut at the first offset from which those of a mark stand in a copy of
the text. -/
structure BytesCut (mark copy text before after : List Char) (offset : Nat) : Prop where
  stands : StandsAt mark copy offset
  least : ∀ other, StandsAt mark copy other → offset ≤ other
  front : Utf8.encode before = (Utf8.encode text).take offset
  behind : Utf8.encode after = (Utf8.encode text).drop (offset + (Utf8.encode mark).length)

/-- The bytes of a mark do not start inside those of a character. -/
theorem length_le_of_prefix_drop {mark : List Char} {character : Char} {offset : Nat}
    {rest : List UInt8} (filled : mark ≠ []) (positive : 0 < offset)
    (starts : Utf8.encode mark <+: (Utf8.encodeChar character).drop offset ++ rest) :
    (Utf8.encodeChar character).length ≤ offset := by
  cases within : (Utf8.encodeChar character).drop offset with
  | nil => exact List.drop_eq_nil_iff.1 within
  | cons byte inner =>
    cases bytes : Utf8.encode mark with
    | nil => exact absurd (Utf8.encode_eq_nil.1 bytes) filled
    | cons first others =>
      rw [within, bytes, List.cons_append, List.cons_prefix_cons] at starts
      have starting := Utf8.isUTF8FirstByte_of_encode bytes
      rw [starts.1] at starting
      exact absurd starting (Utf8.not_isUTF8FirstByte_of_drop positive within)

/-- The bytes of a mark stand in a text only where the mark does. -/
theorem standsAt_iff {mark text : List Char} {offset : Nat} (filled : mark ≠ []) :
    StandsAt mark text offset ↔
      ∃ before after, text = before ++ mark ++ after ∧ (Utf8.encode before).length = offset := by
  constructor
  · intro stands
    induction text generalizing offset with
    | nil =>
      rw [StandsAt, Utf8.encode_nil, List.drop_nil, List.prefix_nil, Utf8.encode_eq_nil] at stands
      exact absurd stands filled
    | cons character text step =>
      rcases Nat.eq_zero_or_pos offset with rfl | positive
      · rcases Utf8.prefix_of_encode_prefix stands with ⟨after, whole⟩
        exact ⟨[], after, whole.symm, rfl⟩
      · rw [StandsAt, Utf8.encode_cons, List.drop_append] at stands
        have passed := length_le_of_prefix_drop filled positive stands
        rw [List.drop_eq_nil_of_le passed, List.nil_append] at stands
        rcases step stands with ⟨before, after, rfl, same⟩
        refine ⟨character :: before, after, rfl, ?_⟩
        rw [Utf8.encode_cons, List.length_append]
        omega
  · rintro ⟨before, after, rfl, rfl⟩
    rw [StandsAt, List.append_assoc, Utf8.encode_append, List.drop_left, Utf8.encode_append]
    exact List.prefix_append _ _

/-- Of two places in a text the earlier one has the fewer bytes before it. -/
theorem length_encode_le_iff {before sign after start twin rest : List Char}
    (same : before ++ sign ++ after = start ++ twin ++ rest) :
    (Utf8.encode before).length ≤ (Utf8.encode start).length ↔ before.length ≤ start.length := by
  rw [List.append_assoc, List.append_assoc] at same
  rcases List.append_eq_append_iff.1 same with ⟨more, rfl, -⟩ | ⟨more, rfl, -⟩
  · simp
  · have empty : (Utf8.encode more).length = 0 ↔ more.length = 0 := by
      rw [List.length_eq_zero_iff, Utf8.encode_eq_nil, List.length_eq_zero_iff]
    simp only [Utf8.encode_append, List.length_append]
    omega

/-- The bytes before a place between two characters of a text end there. -/
theorem isValid_of_append {text : String} {before after : List Char}
    (whole : text.toList = before ++ after) :
    String.Pos.Raw.IsValid text ⟨(Utf8.encode before).length⟩ := by
  rw [String.Pos.Raw.isValid_iff_exists_append]
  refine ⟨.ofList before, .ofList after, ?_, ?_⟩
  · rw [← String.ofList_append, ← whole, String.ofList_toList]
  · rw [String.rawEndPos, ← String.size_toByteArray, String.toByteArray_ofList]
    simp [List.utf8Encode, Utf8.encode, Utf8.encodeChar]

section Bytes

variable {fold : Char → Char} (sized : ∀ character, (fold character).utf8Size = character.utf8Size)

include sized

theorem length_encode_map (text : List Char) :
    (Utf8.encode (text.map fold)).length = (Utf8.encode text).length := by
  induction text with
  | nil => rfl
  | cons character text step =>
    simp only [List.map_cons, Utf8.encode_cons, List.length_append, Utf8.encodeChar,
      String.length_utf8EncodeChar, sized, step]

/-- The bytes of a mark stand in a changed copy where it occurs in the text itself. -/
theorem standsAt_map_iff {mark text : List Char} {offset : Nat} (filled : mark ≠ []) :
    StandsAt mark (text.map fold) offset ↔ ∃ before sign after, sign.map fold = mark ∧
      text = before ++ sign ++ after ∧ (Utf8.encode before).length = offset := by
  rw [standsAt_iff filled]
  constructor
  · rintro ⟨start, rest, whole, rfl⟩
    rcases map_eq_append_iff.1 whole with ⟨before, sign, after, rfl, rfl, same, rfl⟩
    exact ⟨before, sign, after, same, rfl, (length_encode_map sized before).symm⟩
  · rintro ⟨before, sign, after, rfl, rfl, rfl⟩
    exact ⟨before.map fold, after.map fold, by simp, length_encode_map sized before⟩

/-- Where the bytes of a mark stand in a changed copy, they start and end between two characters of
the text. -/
theorem isValid_of_standsAt {mark : List Char} {text : String} {offset : Nat} (filled : mark ≠ [])
    (stands : StandsAt mark (text.toList.map fold) offset) :
    String.Pos.Raw.IsValid text ⟨offset⟩ ∧
      String.Pos.Raw.IsValid text ⟨offset + (Utf8.encode mark).length⟩ := by
  rcases (standsAt_map_iff sized filled).1 stands with ⟨before, sign, after, rfl, whole, rfl⟩
  constructor
  · rw [List.append_assoc] at whole
    exact isValid_of_append whole
  · have ends := isValid_of_append whole
    rwa [Utf8.encode_append, List.length_append, ← length_encode_map sized sign] at ends

/-- The bytes before and behind an occurrence of a mark. -/
theorem encode_of_append (before sign after : List Char) :
    (Utf8.encode (before ++ sign ++ after)).take (Utf8.encode before).length =
        Utf8.encode before ∧
      (Utf8.encode (before ++ sign ++ after)).drop
          ((Utf8.encode before).length + (Utf8.encode (sign.map fold)).length) =
        Utf8.encode after := by
  constructor
  · rw [List.append_assoc, Utf8.encode_append, List.take_left]
  · rw [length_encode_map sized, ← List.length_append, ← Utf8.encode_append,
      Utf8.encode_append _ after, List.drop_left]

/-- A text is cut in its characters where its bytes are. -/
theorem firstCut_iff_bytesCut {mark text before after : List Char} (filled : mark ≠ []) :
    FirstCut fold mark text before after ↔
      ∃ offset, BytesCut mark (text.map fold) text before after offset := by
  constructor
  · rintro ⟨⟨sign, rfl, rfl⟩, first⟩
    have parts := encode_of_append sized before sign after
    refine ⟨(Utf8.encode before).length, ?_, ?_, parts.1.symm, parts.2.symm⟩
    · exact (standsAt_map_iff sized filled).2 ⟨before, sign, after, rfl, rfl, rfl⟩
    · intro other stands
      rcases (standsAt_map_iff sized filled).1 stands with ⟨start, twin, rest, same, whole, rfl⟩
      exact (length_encode_le_iff whole).2 (first start twin rest same whole)
  · rintro ⟨offset, cut⟩
    rcases (standsAt_map_iff sized filled).1 cut.stands with ⟨start, sign, rest, rfl, rfl, rfl⟩
    have parts := encode_of_append sized start sign rest
    obtain rfl : before = start := Utf8.encode_injective (cut.front.trans parts.1)
    obtain rfl : after = rest := Utf8.encode_injective (cut.behind.trans parts.2)
    refine ⟨⟨sign, rfl, rfl⟩, ?_⟩
    intro other twin tail same whole
    have later := cut.least _
      ((standsAt_map_iff sized filled).2 ⟨other, twin, tail, same, whole, rfl⟩)
    exact (length_encode_le_iff whole).1 later

end Bytes

end TableApi.Text
