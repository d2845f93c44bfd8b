import TableApi.Filter.QueryString
import TableApi.Proofs.Text.Occurrence
import TableApi.Proofs.Text.Percent

/-!
# The sign that splits a pair

Any text may stand between two ampersands, so a pair can hold many signs, overlapping ones among
them.  It is split at one of them: of the first delimiter that has a sign in the pair, in the
encoded form if the pair has that anywhere, at the first place.  `Splits` says this without a
search, and the search finds the same parts: `splitPair?_eq_some_iff`.

Encoded signs are looked for in a copy of the pair in capitals.  Only ASCII letters have capitals of
their own there, which are ASCII letters as well, so no byte of the copy moves.  Wherever a sign
starts or ends in the bytes of the copy, two characters of the pair meet.
-/

namespace TableApi

/-! ## Capitals -/

namespace Text

/-- A character is its own capital, or it is a letter and so is its capital. -/
theorem toUpper_eq_or (character : Char) :
    character.toUpper = character ∨
      character.isAlpha = true ∧ character.toUpper.isAlpha = true := by
  by_cases ascii : character.toNat < 0x80
  · have all : ∀ code < 0x80, (Char.ofNat code).toUpper = Char.ofNat code ∨
        (Char.ofNat code).isAlpha = true ∧ (Char.ofNat code).toUpper.isAlpha = true := by decide
    have found := all character.toNat ascii
    rwa [Char.ofNat_toNat] at found
  · refine Or.inl (dif_neg ?_)
    rintro ⟨-, most⟩
    have last : character.toNat ≤ 122 := UInt32.le_iff_toNat_le.1 most
    omega

theorem utf8Size_of_isAlpha {character : Char} (letter : character.isAlpha = true) :
    character.utf8Size = 1 := by
  have ascii : character.toNat < 0x80 :=
    toNat_lt_of_isAlphanum (by simp [Char.isAlphanum, letter])
  rw [Char.utf8Size_eq_one_iff, UInt32.le_iff_toNat_le]
  exact Nat.le_of_lt_succ ascii

end Text

/-! ## Signs and splits -/

namespace Delimiter

/-- The two ways to write a delimiter. -/
inductive Form where
  | encoded
  | plain
deriving DecidableEq, Repr

/-- What the characters of a pair count as where a sign in this form is looked for.  The letters of
an encoded sign are hexadecimal digits, and may be small. -/
def Form.fold : Form → Char → Char
  | encoded => Char.toUpper
  | plain => id

/-- The delimiter in one of its forms. -/
def mark? (delimiter : Delimiter) : Form → Option (List Char)
  | .encoded => delimiter.encoded
  | .plain => some delimiter.plain

/-- A sign of the delimiter in this form occurs in a pair. -/
def Occurs (delimiter : Delimiter) (form : Form) (pair : List Char) : Prop :=
  ∃ mark, delimiter.mark? form = some mark ∧ Text.Occurs form.fold mark pair

/-- How a pair is split into a key and a value: at a sign of the first delimiter that occurs in it,
which is encoded unless only plain ones occur, and the first in its form. -/
inductive Splits (pair : List Char) : Comparison → List Char → List Char → Prop
  | intro {earlier later : List Delimiter} {delimiter : Delimiter} {form : Form}
      {mark key value : List Char}
      (order : all = earlier ++ delimiter :: later)
      (unseen : ∀ other ∈ earlier, ∀ either, ¬other.Occurs either pair)
      (preferred : delimiter.Occurs .encoded pair → form = .encoded)
      (given : delimiter.mark? form = some mark)
      (cut : Text.FirstCut form.fold mark pair key value) :
      Splits pair delimiter.comparison key value

/-! ## How characters count -/

namespace Form

theorem utf8Size_fold (form : Form) (character : Char) :
    (form.fold character).utf8Size = character.utf8Size := by
  cases form with
  | encoded =>
    rcases Text.toUpper_eq_or character with own | ⟨letter, capital⟩
    · rw [fold, own]
    · rw [fold, Text.utf8Size_of_isAlpha letter, Text.utf8Size_of_isAlpha capital]
  | plain => rfl

/-- Only the character itself counts as a character that is no letter. -/
theorem eq_of_fold_eq (form : Form) {character mark : Char} (other : mark.isAlpha = false)
    (same : form.fold character = mark) : character = mark := by
  cases form with
  | encoded =>
    rcases Text.toUpper_eq_or character with own | ⟨-, capital⟩
    · exact own.symm.trans same
    · rw [fold] at same
      rw [same, other] at capital
      cases capital
  | plain => exact same

end Form

/-! ## One delimiter -/

section Cut

variable {mark pair key value : List Char} {delimiter : Delimiter}

theorem cutFolded?_eq_none_iff :
    cutFolded? mark pair = none ↔ ¬Text.Occurs Char.toUpper mark pair := by
  rw [cutFolded?, Option.map_eq_none_iff, Text.cut?_eq_none_iff, Text.infix_map_iff]

theorem firstCut_of_cutFolded? (found : cutFolded? mark pair = some (key, value)) :
    Text.FirstCut Char.toUpper mark pair key value := by
  rcases Option.map_eq_some_iff.1 found with ⟨⟨start, rest⟩, cut, same⟩
  rcases Text.map_eq_append_iff.1 (Text.append_of_cut? cut).symm with
    ⟨before, sign, after, rfl, rfl, rfl, rfl⟩
  have front : (before ++ sign ++ after).take (before.map Char.toUpper).length = before := by
    rw [List.length_map, List.append_assoc, List.take_left]
  have behind : (before ++ sign ++ after).drop
      ((before.map Char.toUpper).length + (sign.map Char.toUpper).length) = after := by
    rw [List.length_map, List.length_map, ← List.length_append, List.drop_left]
  obtain rfl : before = key := front.symm.trans (congrArg Prod.fst same)
  obtain rfl : after = value := behind.symm.trans (congrArg Prod.snd same)
  refine ⟨⟨sign, rfl, rfl⟩, ?_⟩
  intro start twin rest same whole
  have copied := Text.map_eq_append_iff.2 ⟨start, twin, rest, whole, rfl, same, rfl⟩
  simpa using Text.length_le_of_cut? cut copied

/-- A cut in capitals is made at the first occurrence of the mark in either case. -/
theorem cutFolded?_eq_some_iff :
    cutFolded? mark pair = some (key, value) ↔
      Text.FirstCut Char.toUpper mark pair key value := by
  apply Text.FirstCut.eq_some_iff
  · intro key value found
    exact firstCut_of_cutFolded? found
  · exact cutFolded?_eq_none_iff.1

theorem bind_cutFolded?_eq_none_iff :
    (delimiter.encoded.bind fun mark => cutFolded? mark pair) = none ↔
      ¬delimiter.Occurs .encoded pair := by
  cases given : delimiter.encoded <;>
    simp [Occurs, mark?, given, Form.fold, cutFolded?_eq_none_iff]

theorem occurs_plain_iff : delimiter.Occurs .plain pair ↔ delimiter.plain <:+: pair := by
  simp [Occurs, mark?, Form.fold, Text.occurs_id]

/-- A delimiter cuts no pair in which it does not occur. -/
theorem cut?_eq_none_iff : delimiter.cut? pair = none ↔ ∀ form, ¬delimiter.Occurs form pair := by
  rw [Delimiter.cut?, Option.or_eq_none_iff, bind_cutFolded?_eq_none_iff, Text.cut?_eq_none_iff,
    ← occurs_plain_iff]
  constructor
  · rintro ⟨encoded, plain⟩ form
    cases form with
    | encoded => exact encoded
    | plain => exact plain
  · intro unseen
    exact ⟨unseen .encoded, unseen .plain⟩

/-- A delimiter cuts a pair at its first encoded sign, and without one at its first plain sign. -/
theorem cut?_eq_some_iff :
    delimiter.cut? pair = some (key, value) ↔
      ∃ form mark, (delimiter.Occurs .encoded pair → form = .encoded) ∧
        delimiter.mark? form = some mark ∧ Text.FirstCut form.fold mark pair key value := by
  rw [Delimiter.cut?, Option.or_eq_some_iff, bind_cutFolded?_eq_none_iff]
  constructor
  · rintro (encoded | ⟨missing, plain⟩)
    · rcases Option.bind_eq_some_iff.1 encoded with ⟨mark, given, cut⟩
      exact ⟨.encoded, mark, fun _ => rfl, given, cutFolded?_eq_some_iff.1 cut⟩
    · exact ⟨.plain, delimiter.plain, fun occurs => absurd occurs missing, rfl,
        Text.cut?_eq_some_iff.1 plain⟩
  · rintro ⟨form, mark, preferred, given, cut⟩
    cases form with
    | encoded =>
      exact Or.inl (Option.bind_eq_some_iff.2 ⟨mark, given, cutFolded?_eq_some_iff.2 cut⟩)
    | plain =>
      obtain rfl := Option.some.inj given
      refine Or.inr ⟨fun occurs => ?_, Text.cut?_eq_some_iff.2 cut⟩
      cases preferred occurs

/-! ## All delimiters -/

theorem splitPair?_eq_none_iff :
    splitPair? pair = none ↔ ∀ delimiter ∈ all, ∀ form, ¬delimiter.Occurs form pair := by
  simp only [splitPair?, List.findSome?_eq_none_iff, Option.map_eq_none_iff, cut?_eq_none_iff]

theorem splitPair?_eq_some_iff {comparison : Comparison} :
    splitPair? pair = some (comparison, key, value) ↔ Splits pair comparison key value := by
  rw [splitPair?, List.findSome?_eq_some_iff]
  constructor
  · rintro ⟨earlier, delimiter, later, order, found, unseen⟩
    rcases Option.map_eq_some_iff.1 found with ⟨⟨before, after⟩, cut, same⟩
    simp only [Prod.mk.injEq] at same
    obtain ⟨rfl, rfl, rfl⟩ := same
    rcases cut?_eq_some_iff.1 cut with ⟨form, mark, preferred, given, first⟩
    refine Splits.intro order (fun other member => ?_) preferred given first
    exact cut?_eq_none_iff.1 (Option.map_eq_none_iff.1 (unseen other member))
  · intro splits
    cases splits with
    | @intro earlier later delimiter form mark key value order unseen preferred given cut =>
      refine ⟨earlier, delimiter, later, order, ?_, ?_⟩
      · rw [cut?_eq_some_iff.2 ⟨form, mark, preferred, given, cut⟩]
        rfl
      · intro other member
        rw [Option.map_eq_none_iff, cut?_eq_none_iff]
        exact unseen other member

end Cut

/-- Every mark has an equals sign, or is the sign of one of the two strict comparisons. -/
theorem mark_cases {delimiter : Delimiter} (member : delimiter ∈ all) {form : Form}
    {mark : List Char} (given : delimiter.mark? form = some mark) :
    '=' ∈ mark ∨
      form = .plain ∧ (mark = ['<'] ∨ mark = ['>']) ∨
      form = .encoded ∧ (mark = "%3C".toList ∨ mark = "%3E".toList) := by
  have table : ∀ delimiter ∈ all, ∀ form ∈ [Form.encoded, Form.plain],
      ∀ mark ∈ delimiter.mark? form,
        '=' ∈ mark ∨
          form = .plain ∧ (mark = ['<'] ∨ mark = ['>']) ∨
          form = .encoded ∧ (mark = "%3C".toList ∨ mark = "%3E".toList) := by
    decide
  exact table delimiter member form (by cases form <;> simp) mark given

theorem mark_ne_nil {delimiter : Delimiter} (member : delimiter ∈ all) {form : Form}
    {mark : List Char} (given : delimiter.mark? form = some mark) : mark ≠ [] := by
  rintro rfl
  simpa using mark_cases member given

/-- A pair is not split when it has none of the three signs of a single character, and no escape of
the two angle brackets. -/
theorem splitPair?_eq_none_iff_unsigned {pair : List Char} :
    splitPair? pair = none ↔
      ('=' ∉ pair ∧ '<' ∉ pair ∧ '>' ∉ pair) ∧
        ¬Text.Occurs Char.toUpper "%3C".toList pair ∧
        ¬Text.Occurs Char.toUpper "%3E".toList pair := by
  rw [splitPair?_eq_none_iff]
  constructor
  · intro unseen
    have signless : ∀ delimiter ∈ all, ∀ sign, delimiter.plain = [sign] → sign ∉ pair := by
      intro delimiter member sign same inside
      apply unseen delimiter member .plain
      rw [occurs_plain_iff, same]
      rcases List.append_of_mem inside with ⟨before, after, rfl⟩
      exact ⟨before, after, by simp⟩
    have unescaped : ∀ delimiter ∈ all, ∀ mark, delimiter.encoded = some mark →
        ¬Text.Occurs Char.toUpper mark pair := by
      intro delimiter member mark given occurs
      exact unseen delimiter member .encoded ⟨mark, given, occurs⟩
    refine ⟨⟨?_, ?_, ?_⟩, ?_, ?_⟩
    · exact signless ⟨.equal, none, "=".toList⟩ (by decide) '=' rfl
    · exact signless ⟨.less, some "%3C".toList, "<".toList⟩ (by decide) '<' rfl
    · exact signless ⟨.greater, some "%3E".toList, ">".toList⟩ (by decide) '>' rfl
    · exact unescaped ⟨.less, some "%3C".toList, "<".toList⟩ (by decide) _ rfl
    · exact unescaped ⟨.greater, some "%3E".toList, ">".toList⟩ (by decide) _ rfl
  · rintro ⟨⟨equals, less, greater⟩, lessEscape, greaterEscape⟩ delimiter member form
      ⟨mark, given, occurs⟩
    have own : ∀ sign ∈ mark, sign.isAlpha = false → sign ∈ pair := fun sign inside other =>
      occurs.mem inside fun _ => form.eq_of_fold_eq other
    rcases mark_cases member given with inside | ⟨rfl, rfl | rfl⟩ | ⟨rfl, rfl | rfl⟩
    · exact equals (own '=' inside (by decide))
    · exact less (own '<' (by simp) (by decide))
    · exact greater (own '>' (by simp) (by decide))
    · exact lessEscape occurs
    · exact greaterEscape occurs

/-- A pair without a sign is not split, and every other one is split at the sign that the order of
the delimiters puts first.  The offsets at which a sign starts and ends in the bytes of the copy in
capitals lie between characters of the pair, whose bytes fall into the same parts there. -/
theorem split_by_priority (pair : String) :
    (all.map fun delimiter => (delimiter.comparison, delimiter.encoded, delimiter.plain)) =
      [(.notEqual, some "%21=".toList, "!=".toList), (.atMost, some "%3C=".toList, "<=".toList),
       (.atLeast, some "%3E=".toList, ">=".toList), (.less, some "%3C".toList, "<".toList),
       (.greater, some "%3E".toList, ">".toList), (.equal, none, "=".toList)] ∧
    (splitPair? pair.toList = none ↔
      ('=' ∉ pair.toList ∧ '<' ∉ pair.toList ∧ '>' ∉ pair.toList) ∧
        ¬Text.Occurs Char.toUpper "%3C".toList pair.toList ∧
        ¬Text.Occurs Char.toUpper "%3E".toList pair.toList) ∧
    (∀ comparison key value,
      splitPair? pair.toList = some (comparison, key, value) ↔
        Splits pair.toList comparison key value) ∧
    ∀ delimiter ∈ all, ∀ form mark, delimiter.mark? form = some mark →
      (∀ offset, Text.StandsAt mark (pair.toList.map form.fold) offset →
        String.Pos.Raw.IsValid pair ⟨offset⟩ ∧
          String.Pos.Raw.IsValid pair ⟨offset + (Text.Utf8.encode mark).length⟩) ∧
      ∀ key value,
        Text.FirstCut form.fold mark pair.toList key value ↔
          ∃ offset,
            Text.BytesCut mark (pair.toList.map form.fold) pair.toList key value offset := by
  refine ⟨rfl, splitPair?_eq_none_iff_unsigned, fun _ _ _ => splitPair?_eq_some_iff, ?_⟩
  intro delimiter member form mark given
  have filled := mark_ne_nil member given
  constructor
  · intro offset stands
    exact Text.isValid_of_standsAt form.utf8Size_fold filled stands
  · intro key value
    exact Text.firstCut_iff_bytesCut form.utf8Size_fold filled

theorem split_by_priority_accented :
    Text.StandsAt "%3C=".toList ("naïve<1%3c=2".toList.map Char.toUpper) 8 ∧
      String.Pos.Raw.IsValid "naïve<1%3c=2" ⟨8⟩ ∧
      String.Pos.Raw.IsValid "naïve<1%3c=2" ⟨12⟩ ∧
      splitPair? "naïve<1%3c=2".toList = some (.atMost, "naïve<1".toList, "2".toList) ∧
      Splits "naïve<1%3c=2".toList .atMost "naïve<1".toList "2".toList := by
  have stands : Text.StandsAt "%3C=".toList ("naïve<1%3c=2".toList.map Char.toUpper) 8 := by decide
  have split : splitPair? "naïve<1%3c=2".toList = some (.atMost, "naïve<1".toList, "2".toList) := by
    decide
  have whole := split_by_priority "naïve<1%3c=2"
  have found := whole.2.2.2 ⟨.atMost, some "%3C=".toList, "<=".toList⟩ (by decide) .encoded _ rfl
  exact ⟨stands, (found.1 8 stands).1, (found.1 8 stands).2, split, (whole.2.2.1 _ _ _).1 split⟩

end Delimiter

end TableApi
