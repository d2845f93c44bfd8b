import TableApi.Filter.QueryString
import TableApi.Proofs.Text.Percent

/-!
# Signs in an encoded pair

The reader of a query string looks for the signs of the comparisons in the encoded text, one after
the other, so a character of the key or of the value can be taken for a sign.  An encoded pair has
one of two shapes: an encoded text with one equals sign in it, or an encoded text with none.  For
either shape it is plain where each sign is found first.
-/

namespace TableApi

namespace Delimiter

open Text

/-! ## Signs found in an encoded text -/

section Reserved

variable {mark : Char} (reserved : IsReserved mark)

/-- No encoded text starts with an equals sign. -/
theorem not_equals_prefix {text rest : List Char} (apart : text = [] → ¬['='] <+: rest) :
    ¬['='] <+: (formEncode text).map Char.toUpper ++ rest := by
  cases encoded : formEncode text with
  | nil => exact apart (formEncode_eq_nil.1 encoded)
  | cons first others =>
    intro starts
    have same : '=' = first.toUpper := (List.cons_prefix_cons.1 starts).1
    have plain := (isEncoded_toUpper (isEncoded_of_mem (encoded ▸ List.mem_cons_self))).1
    rw [← same] at plain
    revert plain
    decide

include reserved

/-- A sign is found where no occurrence of it comes earlier. -/
theorem cutFolded?_of_first (more before after : List Char) (upper : more.map Char.toUpper = more)
    (first : ∀ start rest, before = start ++ mark :: rest →
      ¬more <+: (formEncode rest).map Char.toUpper ++
        (formEncode [mark] ++ more ++ after.map Char.toUpper)) :
    cutFolded? (formEncode [mark] ++ more)
        (formEncode before ++ (formEncode [mark] ++ more) ++ after) =
      some (formEncode before, after) := by
  have capitals : (formEncode before ++ (formEncode [mark] ++ more) ++ after).map Char.toUpper =
      (formEncode before).map Char.toUpper ++
        (formEncode [mark] ++ more ++ after.map Char.toUpper) := by
    simp only [List.map_append, toUpper_formEncode_singleton reserved, upper, List.append_assoc]
  have filled : formEncode [mark] ++ more ≠ [] := by
    simp [formEncode_singleton reserved, escapeByte]
  rw [cutFolded?, capitals, cut?_formEncode reserved first, cut?_append_self filled]
  simp

/-- A character with an equals sign behind it is found before the equals sign of a pair. -/
theorem cutFolded?_equals_pair (before value : List Char) :
    cutFolded? (formEncode [mark] ++ ['='])
        (formEncode (before ++ [mark]) ++ '=' :: formEncode value) =
      some (formEncode before, formEncode value) := by
  have shape : formEncode (before ++ [mark]) ++ '=' :: formEncode value =
      formEncode before ++ (formEncode [mark] ++ ['=']) ++ formEncode value := by simp
  rw [shape]
  apply cutFolded?_of_first reserved _ _ _ (by decide)
  intro start rest same
  apply not_equals_prefix
  simp [formEncode_singleton reserved, escapeByte]

/-- A character is found where it stands first in an encoded text. -/
theorem cutFolded?_escape {before : List Char} (absent : mark ∉ before) (after : List Char) :
    cutFolded? (formEncode [mark]) (formEncode (before ++ mark :: after)) =
      some (formEncode before, formEncode after) := by
  have found := cutFolded?_of_first reserved [] before (formEncode after) rfl
  simp only [List.append_nil] at found
  rw [formEncode_append, formEncode_cons mark after, ← List.append_assoc]
  apply found
  rintro start rest rfl
  simp at absent

/-- A sign is not found in an encoded text without it when it is not found behind that text. -/
theorem cutFolded?_append_eq_none (more text rest : List Char)
    (apart : ∀ start behind, text = start ++ mark :: behind →
      ¬more <+: (formEncode behind).map Char.toUpper ++ rest.map Char.toUpper)
    (absent : cutFolded? (formEncode [mark] ++ more) rest = none) :
    cutFolded? (formEncode [mark] ++ more) (formEncode text ++ rest) = none := by
  rw [cutFolded?, Option.map_eq_none_iff] at absent ⊢
  rw [List.map_append, cut?_formEncode reserved apart, absent]
  rfl

theorem cutFolded?_cons_eq_none (more rest : List Char)
    (absent : cutFolded? (formEncode [mark] ++ more) rest = none) :
    cutFolded? (formEncode [mark] ++ more) ('=' :: rest) = none := by
  rw [cutFolded?, Option.map_eq_none_iff] at absent ⊢
  have apart : ¬formEncode [mark] ++ more <+: '='.toUpper :: rest.map Char.toUpper := by
    rw [formEncode_singleton reserved]
    intro starts
    exact absurd (List.cons_prefix_cons.1 starts).1 (by decide)
  rw [List.map_cons, cut?_cons apart, absent]
  rfl

theorem cutFolded?_nil (more : List Char) : cutFolded? (formEncode [mark] ++ more) [] = none := by
  rw [cutFolded?, formEncode_singleton reserved]
  rfl

/-- Without an equals sign in the text no sign with one is found. -/
theorem cutFolded?_equals_eq_none (text : List Char) :
    cutFolded? (formEncode [mark] ++ ['=']) (formEncode text) = none := by
  have whole := cutFolded?_append_eq_none reserved ['='] text []
    (fun start behind same => not_equals_prefix (by simp)) (cutFolded?_nil reserved ['='])
  rwa [List.append_nil] at whole

/-- A sign with an equals sign is not found where the character before the equals sign is
another. -/
theorem cutFolded?_equals_pair_eq_none {text : List Char} (ends : text.getLast? ≠ some mark)
    (value : List Char) :
    cutFolded? (formEncode [mark] ++ ['=']) (formEncode text ++ '=' :: formEncode value) =
      none := by
  apply cutFolded?_append_eq_none reserved ['=']
  · rintro start behind rfl
    apply not_equals_prefix
    rintro rfl
    simp at ends
  · exact cutFolded?_cons_eq_none reserved _ _ (cutFolded?_equals_eq_none reserved value)

theorem cutFolded?_escape_eq_none {text : List Char} (absent : mark ∉ text) :
    cutFolded? (formEncode [mark]) (formEncode text) = none := by
  have whole := cutFolded?_append_eq_none reserved [] text [] (by
    rintro start behind rfl
    simp at absent) (cutFolded?_nil reserved [])
  rwa [List.append_nil, List.append_nil] at whole

theorem cutFolded?_escape_pair_eq_none {text value : List Char} (absent : mark ∉ text)
    (absentValue : mark ∉ value) :
    cutFolded? (formEncode [mark]) (formEncode text ++ '=' :: formEncode value) = none := by
  have behind := cutFolded?_cons_eq_none reserved [] (formEncode value) (by
    rw [List.append_nil]
    exact cutFolded?_escape_eq_none reserved absentValue)
  have whole := cutFolded?_append_eq_none reserved [] text _ (by
    rintro start behind rfl
    simp at absent) behind
  rwa [List.append_nil] at whole

/-- An escape that stands in the text is found. -/
theorem cutFolded?_ne_none (before after : List Char) :
    cutFolded? (formEncode [mark]) (before ++ formEncode [mark] ++ after) ≠ none := by
  intro absent
  rw [cutFolded?, Option.map_eq_none_iff, List.map_append, List.map_append,
    toUpper_formEncode_singleton reserved] at absent
  exact cut?_ne_none (by simp [formEncode_singleton reserved, escapeByte]) _ _ absent

end Reserved

/-! ## The parts of an encoded pair -/

theorem all_eq :
    all =
      [⟨.notEqual, some (formEncode ['!'] ++ ['=']), ['!', '=']⟩,
       ⟨.atMost, some (formEncode ['<'] ++ ['=']), ['<', '=']⟩,
       ⟨.atLeast, some (formEncode ['>'] ++ ['=']), ['>', '=']⟩,
       ⟨.less, some (formEncode ['<']), ['<']⟩,
       ⟨.greater, some (formEncode ['>']), ['>']⟩,
       ⟨.equal, none, ['=']⟩] := by
  decide

theorem findSome?_cons_or {α β : Type} (look : α → Option β) (first : α) (others : List α) :
    (first :: others).findSome? look = (look first).or (others.findSome? look) := by
  rw [List.findSome?_cons]
  cases look first <;> rfl

/-- The signs of an encoded pair, in the order in which they are looked for. -/
theorem splitPair?_eq {pair : List Char}
    (encoded : ∀ character ∈ pair, isEncoded character = true ∨ character = '=') :
    splitPair? pair =
      ((cutFolded? (formEncode ['!'] ++ ['=']) pair).map (Comparison.notEqual, ·)).or
        (((cutFolded? (formEncode ['<'] ++ ['=']) pair).map (Comparison.atMost, ·)).or
          (((cutFolded? (formEncode ['>'] ++ ['=']) pair).map (Comparison.atLeast, ·)).or
            (((cutFolded? (formEncode ['<']) pair).map (Comparison.less, ·)).or
              (((cutFolded? (formEncode ['>']) pair).map (Comparison.greater, ·)).or
                ((Text.cut? ['='] pair).map (Comparison.equal, ·)))))) := by
  have uncut : ∀ mark more, isEncoded mark = false → mark ≠ '=' →
      Text.cut? (mark :: more) pair = none := by
    intro mark more plain other
    apply cut?_of_not_mem
    intro member
    rcases encoded mark member with found | found
    · simp [plain] at found
    · exact other found
  have bang := fun more => uncut '!' more (by decide) (by decide)
  have low := fun more => uncut '<' more (by decide) (by decide)
  have high := fun more => uncut '>' more (by decide) (by decide)
  simp only [splitPair?, all_eq, findSome?_cons_or, List.findSome?_nil, cut?, Option.bind_some,
    Option.bind_none, bang, low, high, Option.or_none, Option.none_or]

theorem isReserved_bang : IsReserved '!' := ⟨by decide, by decide⟩

theorem isReserved_less : IsReserved '<' := ⟨by decide, by decide⟩

theorem isReserved_greater : IsReserved '>' := ⟨by decide, by decide⟩

section Encoded

variable (before after : List Char)

theorem encoded_text (text : List Char) : ∀ character ∈ formEncode text,
    isEncoded character = true ∨ character = '=' :=
  fun _ member => Or.inl (isEncoded_of_mem member)

theorem encoded_pair : ∀ character ∈ formEncode before ++ '=' :: formEncode after,
    isEncoded character = true ∨ character = '=' := by
  intro character member
  rcases List.mem_append.1 member with inside | behind
  · exact encoded_text before character inside
  · rcases List.mem_cons.1 behind with sign | inside
    · exact Or.inr sign
    · exact encoded_text after character inside

/-- Without an equals sign the first less-than sign parts the pair. -/
theorem splitPair?_less (absent : '<' ∉ before) :
    splitPair? (formEncode (before ++ '<' :: after)) =
      some (.less, formEncode before, formEncode after) := by
  rw [splitPair?_eq (encoded_text _), cutFolded?_equals_eq_none isReserved_bang,
    cutFolded?_equals_eq_none isReserved_less,
    cutFolded?_equals_eq_none isReserved_greater, cutFolded?_escape isReserved_less absent]
  rfl

/-- Without an equals sign and a less-than sign the first greater-than sign parts the pair. -/
theorem splitPair?_greater (plain : '<' ∉ before ++ after) (absent : '>' ∉ before) :
    splitPair? (formEncode (before ++ '>' :: after)) =
      some (.greater, formEncode before, formEncode after) := by
  have missing : '<' ∉ before ++ '>' :: after := by simpa using plain
  rw [splitPair?_eq (encoded_text _), cutFolded?_equals_eq_none isReserved_bang,
    cutFolded?_equals_eq_none isReserved_less,
    cutFolded?_equals_eq_none isReserved_greater, cutFolded?_escape_eq_none isReserved_less missing,
    cutFolded?_escape isReserved_greater absent]
  rfl

theorem splitPair?_notEqual :
    splitPair? (formEncode (before ++ ['!']) ++ '=' :: formEncode after) =
      some (.notEqual, formEncode before, formEncode after) := by
  rw [splitPair?_eq (encoded_pair _ _), cutFolded?_equals_pair isReserved_bang]
  rfl

theorem splitPair?_atMost :
    splitPair? (formEncode (before ++ ['<']) ++ '=' :: formEncode after) =
      some (.atMost, formEncode before, formEncode after) := by
  rw [splitPair?_eq (encoded_pair _ _), cutFolded?_equals_pair_eq_none isReserved_bang (by simp),
    cutFolded?_equals_pair isReserved_less]
  rfl

theorem splitPair?_atLeast :
    splitPair? (formEncode (before ++ ['>']) ++ '=' :: formEncode after) =
      some (.atLeast, formEncode before, formEncode after) := by
  rw [splitPair?_eq (encoded_pair _ _), cutFolded?_equals_pair_eq_none isReserved_bang (by simp),
    cutFolded?_equals_pair_eq_none isReserved_less (by simp),
    cutFolded?_equals_pair isReserved_greater]
  rfl

/-- A plain equals sign parts a pair in which no other sign can be seen. -/
theorem splitPair?_equal (plainBefore : '<' ∉ before ∧ '>' ∉ before)
    (plainAfter : '<' ∉ after ∧ '>' ∉ after) (ends : before.getLast? ≠ some '!') :
    splitPair? (formEncode before ++ '=' :: formEncode after) =
      some (.equal, formEncode before, formEncode after) := by
  have last : ∀ mark, mark ∉ before → before.getLast? ≠ some mark :=
    fun mark absent found => absent (List.mem_of_getLast? found)
  have absent := not_mem_formEncode (by decide : isEncoded '=' = false) before
  have found : Text.cut? ['='] (formEncode before ++ ['='] ++ formEncode after) = _ :=
    cut?_between absent (formEncode after)
  rw [List.append_assoc, List.singleton_append] at found
  rw [splitPair?_eq (encoded_pair _ _), cutFolded?_equals_pair_eq_none isReserved_bang ends,
    cutFolded?_equals_pair_eq_none isReserved_less (last _ plainBefore.1),
    cutFolded?_equals_pair_eq_none isReserved_greater (last _ plainBefore.2),
    cutFolded?_escape_pair_eq_none isReserved_less plainBefore.1 plainAfter.1,
    cutFolded?_escape_pair_eq_none isReserved_greater plainBefore.2 plainAfter.2, found]
  rfl

/-- A character of the key or of the value of a pair can be taken for a sign. -/
theorem cutFolded?_pair_ne_none {mark : Char} (reserved : IsReserved mark)
    (member : mark ∈ before ∨ mark ∈ after) :
    cutFolded? (formEncode [mark]) (formEncode before ++ '=' :: formEncode after) ≠ none := by
  rcases member with inside | inside
  · rcases List.append_of_mem inside with ⟨start, rest, rfl⟩
    have shown := cutFolded?_ne_none reserved (formEncode start)
      (formEncode rest ++ '=' :: formEncode after)
    rw [formEncode_append, formEncode_cons mark rest]
    simpa using shown
  · rcases List.append_of_mem inside with ⟨start, rest, rfl⟩
    have shown := cutFolded?_ne_none reserved (formEncode before ++ '=' :: formEncode start)
      (formEncode rest)
    rw [formEncode_append, formEncode_cons mark rest]
    simpa using shown

/-- The first of two searches found nothing when what was found is another comparison. -/
theorem none_of_or_eq_some {first comparison : Comparison} (other : first ≠ comparison)
    {cut : Option (List Char × List Char)} {others : Option (Comparison × List Char × List Char)}
    {parts : List Char × List Char}
    (found : (cut.map (first, ·)).or others = some (comparison, parts)) :
    cut = none ∧ others = some (comparison, parts) := by
  cases cut with
  | none => exact ⟨rfl, found⟩
  | some cut => exact absurd (congrArg Prod.fst (Option.some.inj found)) other

/-- A pair is read as an equality only when no other sign can be seen in it. -/
theorem plain_of_splitPair?_equal {parts : List Char × List Char}
    (equal : splitPair? (formEncode before ++ '=' :: formEncode after) = some (.equal, parts)) :
    ('<' ∉ before ∧ '>' ∉ before) ∧ ('<' ∉ after ∧ '>' ∉ after) ∧ before.getLast? ≠ some '!' := by
  rw [splitPair?_eq (encoded_pair _ _)] at equal
  rcases none_of_or_eq_some (by decide) equal with ⟨noBang, equal⟩
  rcases none_of_or_eq_some (by decide) equal with ⟨-, equal⟩
  rcases none_of_or_eq_some (by decide) equal with ⟨-, equal⟩
  rcases none_of_or_eq_some (by decide) equal with ⟨noLess, equal⟩
  rcases none_of_or_eq_some (by decide) equal with ⟨noGreater, -⟩
  have less := fun member =>
    cutFolded?_pair_ne_none before after isReserved_less member noLess
  have greater := fun member =>
    cutFolded?_pair_ne_none before after isReserved_greater member noGreater
  refine ⟨⟨less ∘ Or.inl, greater ∘ Or.inl⟩, ⟨less ∘ Or.inr, greater ∘ Or.inr⟩, ?_⟩
  intro ends
  rcases List.getLast?_eq_some_iff.1 ends with ⟨start, rfl⟩
  rw [cutFolded?_equals_pair isReserved_bang] at noBang
  cases noBang

end Encoded

end Delimiter

end TableApi
