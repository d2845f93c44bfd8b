import TableApi.Proofs.Filter.Body

/-!
# The space before a sign

The sign at the end of a key may stand close to the column or behind a space.  Both spellings mean
the same, since the column is trimmed once the sign is taken off, with two kinds of exception: the
name of a directive and the bare mark of an alternative are words of their own only with a space
behind them.  `spelled_agree_iff` says that these are all the exceptions.

A key is taken apart three times, each time from its whole text: its first word may name a
directive, its start may be the mark of an alternative, and its end may be a sign.  For each of the
three there is a lemma about what stands behind a stem.
-/

namespace TableApi

namespace Directive

/-- The name of a directive has no blank and no character of a sign in it. -/
theorem IsName.plain {word : List Char} (name : IsName word) :
    ∀ character ∈ word, Text.isBlank character = false ∧ character ∉ FilterBody.signChars := by
  have lowered : word.map Char.toLower ∈
      ["orderby".toList, "order_by".toList, "limit".toList, "offset".toList] := by
    rcases name with rfl | rfl | limit | offset
    · decide
    · decide
    · simp [limit]
    · simp [offset]
  have letters : ∀ name ∈ ["orderby".toList, "order_by".toList, "limit".toList, "offset".toList],
      (name.all fun letter =>
        Text.isBlank letter = false ∧ letter ∉ FilterBody.signChars.map Char.toLower) = true := by
    decide
  intro character member
  rcases Text.forall_of_all (letters _ lowered) _ (List.mem_map_of_mem member) with
    ⟨unblank, other⟩
  exact ⟨Text.isBlank_of_toLower unblank, fun inside => other (List.mem_map_of_mem inside)⟩

end Directive

namespace FilterError

/-- Errors that differ at most in what they name. -/
def SameKind : FilterError → FilterError → Prop
  | invalidJson _, invalidJson _ => True
  | notAnObject, notAnObject => True
  | unsupportedValue _, unsupportedValue _ => True
  | emptyColumn _, emptyColumn _ => True
  | _, _ => False

theorem SameKind.refl (error : FilterError) : error.SameKind error := by
  cases error <;> trivial

end FilterError

namespace FilterBody

/-- The same filter set, or errors of one kind. -/
def Agree : Except FilterError FilterSet → Except FilterError FilterSet → Prop
  | .ok filters, .ok others => filters = others
  | .error error, .error other => error.SameKind other
  | _, _ => False

theorem Agree.refl (result : Except FilterError FilterSet) : Agree result result := by
  cases result with
  | ok filters => rfl
  | error error => exact FilterError.SameKind.refl error

/-- Results that agree do so after the same step. -/
theorem Agree.bind {first second : Except FilterError FilterSet} (agree : Agree first second)
    {next others : FilterSet → Except FilterError FilterSet}
    (later : ∀ filters, Agree (next filters) (others filters)) :
    Agree (first >>= next) (second >>= others) := by
  cases first with
  | ok filters =>
    cases second with
    | ok same =>
      obtain rfl : filters = same := agree
      exact later filters
    | error error => exact agree.elim
  | error error =>
    cases second with
    | ok filters => exact agree.elim
    | error other => exact agree

/-- Bodies agree when they differ in one entry, and its two forms agree. -/
theorem agree_filtersOfEntries {entry other : String × Json}
    (agree : Agree (filtersOfEntry entry.1 entry.2) (filtersOfEntry other.1 other.2))
    (before after : Fields) :
    Agree (filtersOfEntries (before ++ entry :: after))
      (filtersOfEntries (before ++ other :: after)) := by
  induction before with
  | nil =>
    apply agree.bind
    intro first
    exact Agree.refl _
  | cons earlier before step =>
    apply (Agree.refl (filtersOfEntry earlier.1 earlier.2)).bind
    intro first
    apply step.bind
    intro others
    exact Agree.refl _

theorem filters_object (entries : Fields) : filters (.object entries) = filtersOfEntries entries :=
  rfl

theorem filtersOfEntries_singleton (entry : String × Json) :
    filtersOfEntries [entry] = filtersOfEntry entry.1 entry.2 := by
  rw [filtersOfEntries, filtersOfEntries]
  cases filtersOfEntry entry.1 entry.2 with
  | ok first => exact congrArg Except.ok (FilterSet.append_empty first)
  | error error => rfl

/-- Keys that are read alike make entries that agree. -/
theorem agree_filtersOfEntry {key other : String}
    (directive : Directive.ofKey? key.toList = Directive.ofKey? other.toList)
    (conjunction : (Conjunction.ofKey key.toList).1 = (Conjunction.ofKey other.toList).1)
    (split : splitKey (Conjunction.ofKey key.toList).2 =
      splitKey (Conjunction.ofKey other.toList).2) (value : Json) :
    Agree (filtersOfEntry key value) (filtersOfEntry other value) := by
  unfold filtersOfEntry
  rw [directive]
  cases Directive.ofKey? other.toList with
  | some directive => exact Agree.refl _
  | none =>
    dsimp only
    rw [conjunction, split]
    by_cases empty : (splitKey (Conjunction.ofKey other.toList).2).1.isEmpty = true
    · rw [if_pos empty, if_pos empty]
      trivial
    · rw [if_neg empty, if_neg empty]
      cases value.scalarText? with
      | some text => rfl
      | none => trivial

/-! ## Signs behind a stem -/

/-- A stem that means something else with a space behind it: blanks aside, it is the name of a
directive or the bare mark of an alternative. -/
def IsReserved (stem : String) : Prop :=
  Directive.IsName (Text.trimStart stem.toList) ∨
    Text.trimStart stem.toList = "OR".toList ∨ Text.trimStart stem.toList = "or".toList

instance (stem : String) : Decidable (IsReserved stem) :=
  inferInstanceAs (Decidable (_ ∨ _ ∨ _))

theorem unblank_of_mem_signs : ∀ sign ∈ signs, ∀ character ∈ sign.1,
    Text.isBlank character = false := by
  intro sign member character inside
  have unblank : ∀ character ∈ signChars, Text.isBlank character = false :=
    Text.forall_of_all (by decide)
  exact unblank character ((of_mem_signs sign member).2.2 inside)

/-- The bare mark of an alternative has no blank in it. -/
theorem unblank_of_bareMark {text : List Char} (bare : text = "OR".toList ∨ text = "or".toList) :
    ∀ character ∈ text, Text.isBlank character = false := by
  rcases bare with rfl | rfl
  · exact Text.forall_of_all (by decide)
  · exact Text.forall_of_all (by decide)

section Stem

variable {stem : List Char} {last : Char} (ends : stem.getLast? = some last)
  (unblank : Text.isBlank last = false) {sign : List Char × Comparison}

include ends unblank

/-- Blanks aside, a stem is not empty. -/
theorem trimStart_ne_nil : Text.trimStart stem ≠ [] := by
  intro empty
  have reached := Text.getLast?_trimStart ends unblank
  rw [empty] at reached
  cases reached

/-- Apart from its sign a word stays a word. -/
theorem head?_words_spaced
    (single : ∀ character ∈ Text.trimStart stem, Text.isBlank character = false)
    (tail : List Char) :
    (Text.words (stem ++ ' ' :: tail)).head? = some (Text.trimStart stem) := by
  have word : Text.words stem = [Text.trimStart stem] := by
    rw [← Text.words_trimStart, Text.words_of_unblank (trimStart_ne_nil ends unblank) single]
  rw [Text.words_append (by decide), word]
  rfl

variable (member : sign ∈ signs)

include member

/-- Close to its sign a word names no directive. -/
theorem directive_signed
    (single : ∀ character ∈ Text.trimStart stem, Text.isBlank character = false) :
    Directive.ofKey? (stem ++ sign.1) = none := by
  have filled : Text.trimStart stem ++ sign.1 ≠ [] := by
    simp [(of_mem_signs sign member).1]
  have plain : ∀ character ∈ Text.trimStart stem ++ sign.1, Text.isBlank character = false := by
    intro character inside
    rcases List.mem_append.1 inside with inside | inside
    · exact single character inside
    · exact unblank_of_mem_signs sign member character inside
  have word : Text.words (stem ++ sign.1) = [Text.trimStart stem ++ sign.1] := by
    rw [← Text.words_trimStart, Text.trimStart_append ends unblank,
      Text.words_of_unblank filled plain]
  rw [Directive.ofKey?_eq_none_iff, word]
  intro first found name
  obtain rfl := Option.some.inj found
  rcases List.exists_mem_of_ne_nil _ (of_mem_signs sign member).1 with ⟨character, inside⟩
  apply (name.plain character (List.mem_append_right _ inside)).2
  exact (of_mem_signs sign member).2.2 inside

/-- A stem whose first word names no directive is none with a sign behind it either. -/
theorem directive_agrees (unnamed : ¬Directive.IsName (Text.trimStart stem)) :
    Directive.ofKey? (stem ++ sign.1) = Directive.ofKey? (stem ++ ' ' :: sign.1) := by
  by_cases single : ∀ character ∈ Text.trimStart stem, Text.isBlank character = false
  · rw [directive_signed ends unblank member single, eq_comm, Directive.ofKey?_eq_none_iff,
      head?_words_spaced ends unblank single]
    intro word found
    rwa [← Option.some.inj found]
  · have parted : ∃ blank ∈ Text.trimStart stem, Text.isBlank blank = true := by
      simpa using single
    apply Directive.ofKey?_congr
    rw [Text.head?_words_append parted, Text.head?_words_append parted]

/-- A sign close to a stem belongs to what the stem leaves for its column. -/
theorem conjunction_signed :
    Conjunction.ofKey (stem ++ sign.1) =
        ((Conjunction.ofKey stem).1, (Conjunction.ofKey stem).2 ++ sign.1) ∧
      (Conjunction.ofKey stem).2.getLast? = some last := by
  apply Conjunction.ofKey_append ends unblank
  · intro final found
    exact unblank_of_mem_signs sign member final (List.mem_of_getLast? found)
  · intro mark known starts
    have space : ∀ other ∈ Conjunction.marks, other.getLast? = some ' ' := by decide
    refine Text.prefix_of_prefix_append (space mark known) ?_ starts
    intro inside
    exact absurd (unblank_of_mem_signs sign member ' ' inside) (by decide)

/-- So does a sign behind a space, unless the space completes the mark of an alternative. -/
theorem conjunction_spaced (unmarked : Text.trimStart stem ≠ "OR".toList ∧
      Text.trimStart stem ≠ "or".toList) :
    Conjunction.ofKey (stem ++ ' ' :: sign.1) =
      ((Conjunction.ofKey stem).1, (Conjunction.ofKey stem).2 ++ ' ' :: sign.1) := by
  have filled := trimStart_ne_nil ends unblank
  refine (Conjunction.ofKey_append ends unblank ?_ ?_).1
  · intro final found
    rw [List.getLast?_cons_of_ne_nil (of_mem_signs sign member).1] at found
    exact unblank_of_mem_signs sign member final (List.mem_of_getLast? found)
  · simp only [Conjunction.marks, List.mem_cons, List.not_mem_nil, or_false]
    rintro mark (rfl | rfl) starts
    · exact (Text.eq_or_prefix_of_prefix (by decide) filled starts).resolve_left unmarked.1
    · exact (Text.eq_or_prefix_of_prefix (by decide) filled starts).resolve_left unmarked.2

/-- A sign behind a stem is taken off its column, with the space before it if there is one. -/
theorem splitKey_stem (other : last ∉ signChars) :
    splitKey ((Conjunction.ofKey stem).2 ++ sign.1) = ((Conjunction.ofKey stem).2, sign.2) ∧
      splitKey ((Conjunction.ofKey stem).2 ++ ' ' :: sign.1) =
        ((Conjunction.ofKey stem).2, sign.2) := by
  have reached := (conjunction_signed ends unblank member).2
  have columnEnds : ∀ final ∈ (Conjunction.ofKey stem).2.getLast?,
      Text.isBlank final = false := by
    intro final found
    rw [reached] at found
    rwa [← Option.some.inj found]
  constructor
  · rw [splitKey_sign reached other member, Text.trimEnd_eq_self columnEnds]
  · exact splitKey_space columnEnds member

end Stem

/-! ## Entries -/

variable {stem : String} {sign : List Char × Comparison}

/-- The two spellings of an entry agree unless the stem is reserved. -/
theorem agree_spelled (member : sign ∈ signs)
    (ends : ∀ last ∈ stem.toList.getLast?, Text.isBlank last = false ∧ last ∉ signChars)
    (free : ¬IsReserved stem) (value : Json) :
    Agree (filtersOfEntry (.ofList (stem.toList ++ sign.1)) value)
      (filtersOfEntry (.ofList (stem.toList ++ ' ' :: sign.1)) value) := by
  simp only [IsReserved, not_or] at free
  have space : Text.isBlank ' ' = true := by decide
  cases final : stem.toList.getLast? with
  | none =>
    rw [List.getLast?_eq_none_iff.1 final, List.nil_append, List.nil_append]
    have same : Conjunction.ofKey (' ' :: sign.1) = Conjunction.ofKey sign.1 := by
      simp [Conjunction.ofKey, Text.trimStart, space]
    apply agree_filtersOfEntry
    · apply Directive.ofKey?_congr
      simp only [String.toList_ofList]
      rw [Text.words_cons_of_isBlank space]
    · simp only [String.toList_ofList, same]
    · simp only [String.toList_ofList, same]
  | some last =>
    rcases ends last final with ⟨unblank, other⟩
    rcases splitKey_stem final unblank member other with ⟨signed, spaced⟩
    apply agree_filtersOfEntry
    · simpa only [String.toList_ofList] using directive_agrees final unblank member free.1
    · simp only [String.toList_ofList, (conjunction_signed final unblank member).1,
        conjunction_spaced final unblank member free.2]
    · simp only [String.toList_ofList, (conjunction_signed final unblank member).1,
        conjunction_spaced final unblank member free.2, signed, spaced]

/-- Close to its sign a word is a column, whatever it means elsewhere. -/
theorem filtersOfEntry_signed (member : sign ∈ signs) {last : Char}
    (final : stem.toList.getLast? = some last) (unblank : Text.isBlank last = false)
    (other : last ∉ signChars)
    (single : ∀ character ∈ Text.trimStart stem.toList, Text.isBlank character = false)
    (text : String) :
    ∃ condition, filtersOfEntry (.ofList (stem.toList ++ sign.1)) (.string text) =
      .ok (.ofCondition condition) := by
  have filled : (Conjunction.ofKey stem.toList).2.isEmpty = false := by
    rw [List.isEmpty_eq_false_iff]
    intro empty
    have reached := (conjunction_signed final unblank member).2
    rw [empty] at reached
    cases reached
  refine ⟨⟨.ofList (Conjunction.ofKey stem.toList).2, sign.2, text,
    (Conjunction.ofKey stem.toList).1⟩, ?_⟩
  simp only [filtersOfEntry, String.toList_ofList, directive_signed final unblank member single,
    (conjunction_signed final unblank member).1, (splitKey_stem final unblank member other).1,
    filled, Json.scalarText?]
  rfl

/-- Apart from its sign the name of a directive is that directive. -/
theorem filtersOfEntry_of_name {last : Char} (final : stem.toList.getLast? = some last)
    (unblank : Text.isBlank last = false)
    (name : Directive.IsName (Text.trimStart stem.toList)) (tail : List Char) (text : String) :
    ∃ directive : Directive, filtersOfEntry (.ofList (stem.toList ++ ' ' :: tail)) (.string text) =
      .ok (directive.filters text.toList) := by
  have single : ∀ character ∈ Text.trimStart stem.toList, Text.isBlank character = false :=
    fun character inside => (name.plain character inside).1
  cases directed : Directive.ofKey? (stem.toList ++ ' ' :: tail) with
  | none =>
    rw [Directive.ofKey?_eq_none_iff, head?_words_spaced final unblank single] at directed
    exact absurd name (directed _ rfl)
  | some directive =>
    exact ⟨directive, by simp only [filtersOfEntry, String.toList_ofList, directed,
      Json.scalarText?]⟩

/-- Apart from a sign the bare mark of an alternative leaves nothing for a column. -/
theorem filtersOfEntry_of_bareMark (member : sign ∈ signs) {last : Char}
    (final : stem.toList.getLast? = some last) (unblank : Text.isBlank last = false)
    (bare : Text.trimStart stem.toList = "OR".toList ∨ Text.trimStart stem.toList = "or".toList)
    (value : Json) :
    filtersOfEntry (.ofList (stem.toList ++ ' ' :: sign.1)) value =
      .error (.emptyColumn (.ofList (stem.toList ++ ' ' :: sign.1))) := by
  have single := unblank_of_bareMark bare
  have undirected : Directive.ofKey? (stem.toList ++ ' ' :: sign.1) = none := by
    rw [Directive.ofKey?_eq_none_iff, head?_words_spaced final unblank single]
    intro word found
    rw [← Option.some.inj found]
    rcases bare with word | word
    · rw [word]
      decide +kernel
    · rw [word]
      decide +kernel
  have marked : ∃ mark ∈ Conjunction.marks,
      Text.trimStart (stem.toList ++ ' ' :: sign.1) = mark ++ sign.1 := by
    rw [Text.trimStart_append final unblank]
    rcases bare with word | word
    · exact ⟨"OR ".toList, by decide, by rw [word]; rfl⟩
    · exact ⟨"or ".toList, by decide, by rw [word]; rfl⟩
  rcases marked with ⟨mark, known, front⟩
  have nothing : ∀ sign ∈ signs, (splitKey sign.1).1.isEmpty = true := by decide
  simp only [filtersOfEntry, String.toList_ofList, undirected,
    Conjunction.ofKey_of_mark known front,
    Text.trim_of_unblank (unblank_of_mem_signs sign member), nothing sign member]
  rfl

/-- The two spellings of an entry do not agree when the stem is reserved. -/
theorem not_agree_of_isReserved (member : sign ∈ signs)
    (ends : ∀ last ∈ stem.toList.getLast?, Text.isBlank last = false ∧ last ∉ signChars)
    (reserved : IsReserved stem) :
    ¬Agree (filtersOfEntry (.ofList (stem.toList ++ sign.1)) (.string ""))
      (filtersOfEntry (.ofList (stem.toList ++ ' ' :: sign.1)) (.string "")) := by
  have single : ∀ character ∈ Text.trimStart stem.toList, Text.isBlank character = false := by
    rcases reserved with name | bare
    · exact fun character inside => (name.plain character inside).1
    · exact unblank_of_bareMark bare
  cases final : stem.toList.getLast? with
  | none =>
    rw [IsReserved, List.getLast?_eq_none_iff.1 final] at reserved
    exact absurd reserved (by decide)
  | some last =>
    rcases ends last final with ⟨unblank, other⟩
    rcases filtersOfEntry_signed member final unblank other single "" with ⟨condition, close⟩
    rw [close]
    intro agree
    rcases reserved with name | bare
    · rcases filtersOfEntry_of_name final unblank name sign.1 "" with ⟨directive, apart⟩
      rw [apart] at agree
      have conditions : [condition] = (directive.filters "".toList).conditions :=
        congrArg FilterSet.conditions agree
      rw [directive.conditions_filters] at conditions
      cases conditions
    · rw [filtersOfEntry_of_bareMark member final unblank bare] at agree
      exact agree

/-! ## Bodies -/

/-- The signs as texts. -/
def signTexts : List String :=
  ["!=", "<=", ">=", "!", "<", ">", "="]

theorem exists_sign_of_text : ∀ text ∈ signTexts, ∃ sign ∈ signs, sign.1 = text.toList := by
  decide

/-- Bodies that differ in the space before the sign of one key mean the same, or are refused for the
same kind of reason, exactly when the stem of that key is not reserved. -/
theorem spelled_agree_iff {stem text : String}
    (ends : ∀ last ∈ stem.toList.getLast?, Text.isBlank last = false ∧ last ∉ signChars)
    (known : text ∈ signTexts) :
    (∀ (before after : Fields) (value : Json),
        Agree (filters (.object (before ++ (stem ++ text, value) :: after)))
          (filters (.object (before ++ (stem ++ " " ++ text, value) :: after)))) ↔
      ¬IsReserved stem := by
  rcases exists_sign_of_text text known with ⟨sign, member, spelled⟩
  have close : stem ++ text = .ofList (stem.toList ++ sign.1) := by
    apply String.toList_injective
    simp [spelled]
  have apart : stem ++ " " ++ text = .ofList (stem.toList ++ ' ' :: sign.1) := by
    apply String.toList_injective
    simp [spelled]
  rw [close, apart]
  constructor
  · intro agree reserved
    apply not_agree_of_isReserved member ends reserved
    have alone := agree [] [] (.string "")
    rw [List.nil_append, List.nil_append, filters_object, filters_object,
      filtersOfEntries_singleton, filtersOfEntries_singleton] at alone
    exact alone
  · intro free before after value
    rw [filters_object, filters_object]
    apply agree_filtersOfEntries
    exact agree_spelled member ends free value

theorem spelled_agree_iff_age :
    ¬IsReserved "OR age" ∧
      Agree (filters (.object ([("limit", .string "5")] ++ ("OR age" ++ ">=", .string "21") :: [])))
        (filters (.object
          ([("limit", .string "5")] ++ ("OR age" ++ " " ++ ">=", .string "21") :: []))) := by
  have free : ¬IsReserved "OR age" := by decide
  have final : "OR age".toList.getLast? = some 'e' := by decide
  have ends : ∀ last ∈ "OR age".toList.getLast?, Text.isBlank last = false ∧ last ∉ signChars := by
    intro last found
    obtain rfl := Option.some.inj (final.symm.trans found)
    decide
  exact ⟨free, (spelled_agree_iff ends (by decide)).2 free _ _ _⟩

/-- Close to its sign `limit` is a column, and with a space behind it the limit of the rows. -/
theorem limit_spelled_apart :
    "limit".toList.getLast?.all (fun last => !Text.isBlank last && last ∉ signChars) = true ∧
      filters (.object [("limit" ++ "=", .string "5")]) =
        .ok (.ofCondition ⟨"limit", .equal, "5", .and⟩) ∧
      filters (.object [("limit" ++ " " ++ "=", .string "5")]) =
        .ok { FilterSet.empty with limit := some 5 } ∧
      ¬Agree (filters (.object [("limit" ++ "=", .string "5")]))
        (filters (.object [("limit" ++ " " ++ "=", .string "5")])) := by
  have close : filters (.object [("limit" ++ "=", .string "5")]) =
      .ok (.ofCondition ⟨"limit", .equal, "5", .and⟩) := by
    decide +kernel
  have apart : filters (.object [("limit" ++ " " ++ "=", .string "5")]) =
      .ok { FilterSet.empty with limit := some 5 } := by
    decide +kernel
  refine ⟨by decide, close, apart, ?_⟩
  rw [close, apart]
  intro agree
  have conditions := congrArg FilterSet.conditions agree
  cases conditions

end FilterBody

end TableApi
