import TableApi.Proofs.Text.Strip
import TableApi.Proofs.Text.Words

/-!
# Trimmed texts

A text is trimmed when it neither starts nor ends with a blank.  Trimming takes characters away and
adds none, and leaves the words as they are.  A blank between two texts parts their words.
-/

namespace TableApi.Text

/-- A trim takes away characters only. -/
theorem mem_of_mem_trim {text : List Char} {character : Char} (member : character ∈ trim text) :
    character ∈ text :=
  (strip_sublist isBlank text).mem member

theorem trimStart_eq_self {text : List Char}
    (starts : ∀ first ∈ text.head?, isBlank first = false) : trimStart text = text :=
  dropWhile_eq_self starts

theorem trimEnd_eq_self {text : List Char}
    (ends : ∀ last ∈ text.getLast?, isBlank last = false) : trimEnd text = text := by
  have same : trimStart text.reverse = text.reverse := by
    apply trimStart_eq_self
    simpa using ends
  have unfolded : trimEnd text = (trimStart text.reverse).reverse := rfl
  rw [unfolded, same, List.reverse_reverse]

theorem head?_trimStart {text : List Char} :
    ∀ first ∈ (trimStart text).head?, isBlank first = false :=
  fun _ found => head?_dropWhile found

/-- The trimmed texts are those with no blank at either end. -/
theorem trim_eq_self_iff {text : List Char} :
    trim text = text ↔
      (∀ first ∈ text.head?, isBlank first = false) ∧
        ∀ last ∈ text.getLast?, isBlank last = false :=
  strip_eq_self_iff

theorem trim_of_unblank {text : List Char}
    (plain : ∀ character ∈ text, isBlank character = false) : trim text = text :=
  trim_eq_self_iff.2
    ⟨fun first found => plain first (List.mem_of_mem_head? found),
      fun last found => plain last (List.mem_of_getLast? found)⟩

theorem isBlank_of_isDigit {digit : Char} (isDigit : digit.isDigit = true) :
    isBlank digit = false := by
  simp only [Char.isDigit, Bool.and_eq_true, decide_eq_true_eq, UInt32.le_iff_toNat_le,
    ge_iff_le] at isDigit
  have code : digit.toNat = digit.val.toNat := rfl
  have zero : '0'.val.toNat = 48 := rfl
  have nine : '9'.val.toNat = 57 := rfl
  simp only [isBlank, code, Bool.or_eq_false_iff, Bool.and_eq_false_iff, beq_eq_false_iff_ne,
    decide_eq_false_iff_not]
  omega

/-- Lower case leaves a character alone, or makes a small letter of a capital one. -/
theorem toLower_cases (character : Char) :
    character.toLower = character ∨
      65 ≤ character.val.toNat ∧ character.val.toNat < 91 ∧ 97 ≤ character.toLower.val.toNat := by
  have first : 'A'.val.toNat = 65 := rfl
  have last : 'Z'.val.toNat = 90 := rfl
  have distance : ('a'.val - 'A'.val).toNat = 32 := rfl
  unfold Char.toLower
  split
  · rename_i upper
    simp only [ge_iff_le, UInt32.le_iff_toNat_le, first, last] at upper
    refine Or.inr ⟨upper.1, by omega, ?_⟩
    simp only [UInt32.toNat_add, distance]
    omega
  · exact Or.inl rfl

theorem toLower_toLower (character : Char) : character.toLower.toLower = character.toLower := by
  rcases toLower_cases character with same | ⟨_, _, low⟩
  · rw [same, same]
  · rcases toLower_cases character.toLower with same | ⟨_, high, _⟩
    · exact same
    · omega

theorem isBlank_of_toLower {character : Char} (lowered : isBlank character.toLower = false) :
    isBlank character = false := by
  rcases toLower_cases character with same | ⟨first, last, _⟩
  · rwa [same] at lowered
  · have code : character.toNat = character.val.toNat := rfl
    simp only [isBlank, code, Bool.or_eq_false_iff, Bool.and_eq_false_iff, beq_eq_false_iff_ne,
      decide_eq_false_iff_not]
    omega

theorem splitWhen_append {separates : Char → Bool} {mark : Char} (marks : separates mark = true)
    (first second : List Char) :
    splitWhen separates (first ++ mark :: second) =
      splitWhen separates first ++ splitWhen separates second := by
  induction first with
  | nil => simp [splitWhen, marks]
  | cons character first step =>
    rw [List.cons_append, splitWhen, splitWhen, step]
    split
    · rfl
    · cases pieces : splitWhen separates first with
      | nil => exact absurd pieces (splitWhen_ne_nil separates first)
      | cons piece others => rfl

/-- A blank parts the words before it from those behind it. -/
theorem words_append {blank : Char} (isBlank : isBlank blank = true) (first second : List Char) :
    words (first ++ blank :: second) = words first ++ words second := by
  simp [words, splitWhen_append isBlank]

/-- A text that starts with no blank has a word. -/
theorem words_ne_nil {text : List Char} {first : Char} (starts : text.head? = some first)
    (filled : isBlank first = false) : words text ≠ [] := by
  intro none
  have blank := words_eq_nil none first (List.mem_of_mem_head? starts)
  simp [blank] at filled

theorem words_of_blank {text : List Char} (blank : ∀ character ∈ text, isBlank character = true) :
    words text = [] := by
  induction text with
  | nil => rfl
  | cons first rest step =>
    rw [List.forall_mem_cons] at blank
    rw [words_cons_of_isBlank blank.1, step blank.2]

theorem words_blank_append {lead : List Char} (blank : ∀ character ∈ lead, isBlank character = true)
    (text : List Char) : words (lead ++ text) = words text := by
  induction lead with
  | nil => rfl
  | cons first rest step =>
    rw [List.forall_mem_cons] at blank
    rw [List.cons_append, words_cons_of_isBlank blank.1, step blank.2]

theorem words_append_blank {trail : List Char} (text : List Char)
    (blank : ∀ character ∈ trail, isBlank character = true) :
    words (text ++ trail) = words text := by
  cases trail with
  | nil => rw [List.append_nil]
  | cons first rest =>
    rw [List.forall_mem_cons] at blank
    rw [words_append blank.1, words_of_blank blank.2, List.append_nil]

theorem words_of_unblank {text : List Char} (filled : text ≠ [])
    (plain : ∀ character ∈ text, isBlank character = false) : words text = [text] := by
  simp [words, splitWhen_of_plain plain, filled]

/-! ## Trims of any text -/

theorem trimStart_blank_append {lead : List Char}
    (blank : ∀ character ∈ lead, isBlank character = true) (text : List Char) :
    trimStart (lead ++ text) = trimStart text :=
  List.dropWhile_append_of_pos blank

theorem words_trimStart (text : List Char) : words (trimStart text) = words text := by
  have whole : text.takeWhile isBlank ++ trimStart text = text := List.takeWhile_append_dropWhile
  calc words (trimStart text) = words (text.takeWhile isBlank ++ trimStart text) :=
        (words_blank_append (List.all_eq_true.1 List.all_takeWhile) _).symm
    _ = words text := by rw [whole]

/-- What follows a text with a blank inside belongs to no first word. -/
theorem head?_words_append {text : List Char}
    (parted : ∃ blank ∈ trimStart text, isBlank blank = true) (tail : List Char) :
    (words (text ++ tail)).head? = (words text).head? := by
  rcases parted with ⟨blank, inside, isBlank⟩
  cases found : words text with
  | nil =>
    have empty : trimStart text = [] := by
      have all := words_eq_nil found
      rw [trimStart, ← List.append_nil text, List.dropWhile_append_of_pos all]
      rfl
    rw [empty] at inside
    cases inside
  | cons word others =>
    rcases words_eq_cons found with ⟨lead, after, rfl, blanks, next, _⟩
    have member : word ∈ words (lead ++ word ++ after) := by
      rw [found]
      exact List.mem_cons_self
    rcases mem_words member with ⟨filled, plain⟩
    have single : words (lead ++ word) = [word] := by
      rw [words_blank_append blanks, words_of_unblank filled plain]
    cases after with
    | nil =>
      have start : trimStart word = word :=
        trimStart_eq_self fun first starts => plain first (List.mem_of_mem_head? starts)
      rw [List.append_nil, trimStart_blank_append blanks, start] at inside
      rw [plain blank inside] at isBlank
      cases isBlank
    | cons mark rest =>
      rw [List.append_assoc, List.cons_append, words_append (next mark rfl), single]
      rfl

/-- A text is its trimmed part with blanks around it. -/
theorem exists_trim (text : List Char) :
    ∃ lead trail, text = lead ++ trim text ++ trail ∧
      (∀ character ∈ lead, isBlank character = true) ∧
      ∀ character ∈ trail, isBlank character = true := by
  refine ⟨text.takeWhile isBlank, ((trimStart text).reverse.takeWhile isBlank).reverse, ?_, ?_, ?_⟩
  · have back : trim text ++ ((trimStart text).reverse.takeWhile isBlank).reverse =
        trimStart text := by
      rw [trim, trimEnd, dropWhileEnd, ← List.reverse_append, List.takeWhile_append_dropWhile,
        List.reverse_reverse]
    rw [List.append_assoc, back, trimStart, List.takeWhile_append_dropWhile]
  · exact List.all_eq_true.1 List.all_takeWhile
  · intro character member
    exact List.all_eq_true.1 List.all_takeWhile character (List.mem_reverse.1 member)

/-- The words of a text are those of the text without the blanks around it. -/
theorem words_trim (text : List Char) : words (trim text) = words text := by
  rcases exists_trim text with ⟨lead, trail, whole, before, behind⟩
  calc words (trim text) = words (lead ++ (trim text ++ trail)) := by
        rw [words_blank_append before, words_append_blank _ behind]
    _ = words text := by rw [← List.append_assoc, ← whole]

theorem getLast?_trimStart {text : List Char} {last : Char} (ends : text.getLast? = some last)
    (unblank : isBlank last = false) : (trimStart text).getLast? = some last := by
  rcases List.getLast?_eq_some_iff.1 ends with ⟨front, rfl⟩
  rw [trimStart, List.dropWhile_append]
  split
  · simp [unblank]
  · simp

/-- A text that ends in no blank loses only the blanks in front of it, whatever follows it. -/
theorem trimStart_append {text : List Char} {last : Char} (ends : text.getLast? = some last)
    (unblank : isBlank last = false) (tail : List Char) :
    trimStart (text ++ tail) = trimStart text ++ tail := by
  have reached := getLast?_trimStart ends unblank
  unfold trimStart at reached ⊢
  have stops : ¬(text.dropWhile isBlank).isEmpty = true := by
    intro empty
    rw [List.isEmpty_iff.1 empty] at reached
    cases reached
  rw [List.dropWhile_append, if_neg stops]

theorem trim_eq_trimStart {text : List Char} {last : Char} (ends : text.getLast? = some last)
    (unblank : isBlank last = false) : trim text = trimStart text := by
  apply trimEnd_eq_self
  intro final found
  rw [getLast?_trimStart ends unblank] at found
  rwa [← Option.some.inj found]

/-- Trimming a text that ends in no blank keeps its end. -/
theorem getLast?_trim {text : List Char} {last : Char} (ends : text.getLast? = some last)
    (unblank : isBlank last = false) : (trim text).getLast? = some last := by
  rw [trim_eq_trimStart ends unblank, getLast?_trimStart ends unblank]

/-- Trimming a text that ends in no blank keeps what follows it, unless that ends in one. -/
theorem trim_append {text tail : List Char} {last : Char} (ends : text.getLast? = some last)
    (unblank : isBlank last = false)
    (tailEnds : ∀ final ∈ tail.getLast?, isBlank final = false) :
    trim (text ++ tail) = trim text ++ tail := by
  have whole : ∀ final ∈ (trimStart text ++ tail).getLast?, isBlank final = false := by
    intro final found
    rw [List.getLast?_append, getLast?_trimStart ends unblank] at found
    cases reached : tail.getLast? with
    | none =>
      rw [reached] at found
      rwa [← Option.some.inj found]
    | some other =>
      rw [reached] at found
      exact tailEnds final (reached.trans found)
  rw [trim, trimStart_append ends unblank, trimEnd_eq_self whole, trim_eq_trimStart ends unblank]

theorem trim_prefix_trimStart (text : List Char) : trim text <+: trimStart text :=
  strip_prefix_dropWhile isBlank text

/-- A trimmed text has no blank at either end. -/
@[simp]
theorem trim_trim (text : List Char) : trim (trim text) = trim text :=
  strip_strip isBlank text

end TableApi.Text
