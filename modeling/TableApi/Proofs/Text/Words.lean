import TableApi.Text.Blank
import TableApi.Text.Scan

/-!
# Words and pieces of a text

A text can be put together again from its words and the blanks around them, and from its pieces
and the marks between them.  `words_eq_cons` takes the first word off a text, and
`joinWith_splitAtChar` joins the pieces.
-/

namespace TableApi.Text

/-- A property of every character of a text, checked one character after the other. -/
theorem forall_of_all {property : Char → Prop} [DecidablePred property] {text : List Char}
    (checked : text.all (fun character => property character) = true) :
    ∀ character ∈ text, property character := by
  simpa using checked

/-! ## Pieces -/

/-- The pieces behind the first one are those of what follows the separator behind it. -/
theorem splitWhen_cases (separates : Char → Bool) (text : List Char) :
    ∃ piece pieces, splitWhen separates text = piece :: pieces ∧
      ((pieces = [] ∧ text = piece) ∨
        ∃ mark rest, separates mark = true ∧ text = piece ++ mark :: rest ∧
          pieces = splitWhen separates rest) := by
  induction text with
  | nil => exact ⟨[], [], rfl, Or.inl ⟨rfl, rfl⟩⟩
  | cons character rest step =>
    by_cases marks : separates character = true
    · refine ⟨[], splitWhen separates rest, by simp [splitWhen, marks], Or.inr ?_⟩
      exact ⟨character, rest, marks, rfl, rfl⟩
    · rcases step with ⟨piece, pieces, split, ending⟩
      refine ⟨character :: piece, pieces, by simp [splitWhen, marks, split], ?_⟩
      rcases ending with ⟨last, rfl⟩ | ⟨mark, after, isMark, rfl, others⟩
      · exact Or.inl ⟨last, rfl⟩
      · exact Or.inr ⟨mark, after, isMark, rfl, others⟩

/-- No piece holds a separator. -/
theorem mem_splitWhen {separates : Char → Bool} {text piece : List Char}
    (member : piece ∈ splitWhen separates text) :
    ∀ character ∈ piece, separates character = false := by
  induction text generalizing piece with
  | nil =>
    have empty : piece = [] := by simpa [splitWhen] using member
    simp [empty]
  | cons first rest step =>
    by_cases marks : separates first = true
    · rcases List.mem_cons.1 (by simpa [splitWhen, marks] using member) with rfl | later
      · simp
      · exact step later
    · have plain : separates first = false := by simpa using marks
      rcases splitWhen_cases separates rest with ⟨start, others, cut, _⟩
      have split : splitWhen separates (first :: rest) = (first :: start) :: others := by
        simp [splitWhen, plain, cut]
      rw [split] at member
      rw [cut] at step
      rcases List.mem_cons.1 member with rfl | later
      · intro character inside
        rcases List.mem_cons.1 inside with rfl | inside
        · exact plain
        · exact step List.mem_cons_self character inside
      · exact step (List.mem_cons_of_mem _ later)

theorem splitAtChar_ne_nil (mark : Char) (text : List Char) : splitAtChar mark text ≠ [] := by
  cases text with
  | nil => simp [splitAtChar]
  | cons character rest =>
    simp only [splitAtChar]
    split
    · simp
    · split <;> simp

theorem joinWith_cons (mark piece : List Char) {pieces : List (List Char)} (more : pieces ≠ []) :
    joinWith mark (piece :: pieces) = piece ++ mark ++ joinWith mark pieces := by
  cases pieces with
  | nil => exact absurd rfl more
  | cons other pieces => rfl

/-- The pieces between the occurrences of a character are all that there is beside it. -/
theorem joinWith_splitAtChar (mark : Char) (text : List Char) :
    joinWith [mark] (splitAtChar mark text) = text := by
  induction text with
  | nil => rfl
  | cons character rest step =>
    simp only [splitAtChar]
    split
    · rename_i same
      rw [joinWith_cons _ _ (splitAtChar_ne_nil mark rest), step, same]
      rfl
    · cases pieces : splitAtChar mark rest with
      | nil => exact absurd pieces (splitAtChar_ne_nil mark rest)
      | cons piece others =>
        rw [pieces] at step
        cases others with
        | nil => simpa [joinWith] using step
        | cons other others => simpa [joinWith] using step

/-- To split at one character is to split where that character stands. -/
theorem splitAtChar_eq_splitWhen (mark : Char) (text : List Char) :
    splitAtChar mark text = splitWhen (· == mark) text := by
  induction text with
  | nil => rfl
  | cons character rest step =>
    by_cases same : character = mark
    · simp [splitAtChar, splitWhen, same, step]
    · rcases splitWhen_cases (· == mark) rest with ⟨piece, pieces, split, _⟩
      simp [splitAtChar, splitWhen, same, step, split]

theorem not_mem_of_mem_splitAtChar {mark : Char} {text piece : List Char}
    (member : piece ∈ splitAtChar mark text) : mark ∉ piece := by
  rw [splitAtChar_eq_splitWhen] at member
  intro inside
  have plain := mem_splitWhen member mark inside
  simp at plain

theorem splitWhen_congr {separates other : Char → Bool} {text : List Char}
    (agree : ∀ character ∈ text, separates character = other character) :
    splitWhen separates text = splitWhen other text := by
  induction text with
  | nil => rfl
  | cons character rest step =>
    have later := step fun member inside => agree member (List.mem_cons_of_mem _ inside)
    simp only [splitWhen, agree character List.mem_cons_self, later]

/-- A text without separators is one piece. -/
theorem splitWhen_of_plain {separates : Char → Bool} {text : List Char}
    (plain : ∀ character ∈ text, separates character = false) :
    splitWhen separates text = [text] := by
  induction text with
  | nil => rfl
  | cons character rest step =>
    have later := step fun member inside => plain member (List.mem_cons_of_mem _ inside)
    simp [splitWhen, plain character List.mem_cons_self, later]

/-- The pieces of the pieces are those that the finer of the two separators gives at once. -/
theorem flatMap_splitWhen (separates : Char → Bool) {finer : Char → Bool}
    (refines : ∀ character, separates character = true → finer character = true)
    (text : List Char) :
    (splitWhen separates text).flatMap (splitWhen finer) = splitWhen finer text := by
  induction text with
  | nil => rfl
  | cons character rest step =>
    by_cases marks : separates character = true
    · simp [splitWhen, marks, refines character marks, step]
    · rcases splitWhen_cases separates rest with ⟨piece, pieces, split, _⟩
      rcases splitWhen_cases finer piece with ⟨first, others, cut, _⟩
      rw [split, List.flatMap_cons, cut] at step
      by_cases cuts : finer character = true
      · simp [splitWhen, marks, split, cuts, cut, ← step]
      · simp [splitWhen, marks, split, cuts, cut, ← step]

/-- The pieces are made of characters of the text. -/
theorem mem_of_mem_splitWhen {separates : Char → Bool} {text piece : List Char}
    (member : piece ∈ splitWhen separates text) : ∀ character ∈ piece, character ∈ text := by
  induction text generalizing piece with
  | nil =>
    have empty : piece = [] := by simpa [splitWhen] using member
    simp [empty]
  | cons first rest step =>
    intro character inside
    by_cases marks : separates first = true
    · rcases List.mem_cons.1 (by simpa [splitWhen, marks] using member) with rfl | later
      · simp at inside
      · exact List.mem_cons_of_mem _ (step later character inside)
    · rcases splitWhen_cases separates rest with ⟨start, others, cut, _⟩
      have split : splitWhen separates (first :: rest) = (first :: start) :: others := by
        simp [splitWhen, marks, cut]
      rw [split] at member
      rw [cut] at step
      rcases List.mem_cons.1 member with rfl | later
      · rcases List.mem_cons.1 inside with rfl | inside
        · exact List.mem_cons_self
        · exact List.mem_cons_of_mem _ (step List.mem_cons_self character inside)
      · exact List.mem_cons_of_mem _ (step (List.mem_cons_of_mem _ later) character inside)

/-- A character that is no separator is in one of the pieces. -/
theorem exists_mem_splitWhen {separates : Char → Bool} {text : List Char} {character : Char}
    (member : character ∈ text) (plain : separates character = false) :
    ∃ piece ∈ splitWhen separates text, character ∈ piece := by
  induction text with
  | nil => simp at member
  | cons first rest step =>
    by_cases marks : separates first = true
    · have later : character ∈ rest := by
        rcases List.mem_cons.1 member with rfl | later
        · simp [plain] at marks
        · exact later
      rcases step later with ⟨piece, cut, inside⟩
      exact ⟨piece, by simp [splitWhen, marks, cut], inside⟩
    · rcases splitWhen_cases separates rest with ⟨piece, pieces, cut, _⟩
      have split : splitWhen separates (first :: rest) = (first :: piece) :: pieces := by
        simp [splitWhen, marks, cut]
      rw [split]
      rcases List.mem_cons.1 member with rfl | later
      · exact ⟨character :: piece, List.mem_cons_self, List.mem_cons_self⟩
      · rcases step later with ⟨found, isPiece, inside⟩
        rw [cut] at isPiece
        rcases List.mem_cons.1 isPiece with rfl | isPiece
        · exact ⟨first :: found, List.mem_cons_self, List.mem_cons_of_mem _ inside⟩
        · exact ⟨found, List.mem_cons_of_mem _ isPiece, inside⟩

/-! ## Runs -/

/-- The maximal runs of characters that are no separators. -/
def runs (separates : Char → Bool) (text : List Char) : List (List Char) :=
  (splitWhen separates text).filter fun piece => !piece.isEmpty

/-- The words of a text are its runs without blanks. -/
theorem runs_isBlank (text : List Char) : runs isBlank text = words text := rfl

theorem runs_congr {separates other : Char → Bool} {text : List Char}
    (agree : ∀ character ∈ text, separates character = other character) :
    runs separates text = runs other text := by
  rw [runs, splitWhen_congr agree, runs]

theorem exists_mem_runs {separates : Char → Bool} {text : List Char} {character : Char}
    (member : character ∈ text) (plain : separates character = false) :
    ∃ run ∈ runs separates text, character ∈ run := by
  rcases exists_mem_splitWhen member plain with ⟨piece, cut, inside⟩
  refine ⟨piece, List.mem_filter.2 ⟨cut, ?_⟩, inside⟩
  simpa using List.ne_nil_of_mem inside

/-! ## Words -/

theorem words_cons_of_isBlank {character : Char} (blank : isBlank character = true)
    (rest : List Char) : words (character :: rest) = words rest := by
  simp [words, splitWhen, blank]

/-- A word holds a character, and no blank. -/
theorem mem_words {text word : List Char} (member : word ∈ words text) :
    word ≠ [] ∧ ∀ character ∈ word, isBlank character = false := by
  have found : word ∈ splitWhen isBlank text ∧ word ≠ [] := by
    simpa [words] using member
  exact ⟨found.2, mem_splitWhen found.1⟩

theorem words_eq_nil {text : List Char} (none : words text = []) :
    ∀ character ∈ text, isBlank character = true := by
  induction text with
  | nil => simp
  | cons first rest step =>
    by_cases blank : isBlank first = true
    · rw [words_cons_of_isBlank blank] at none
      intro character member
      rcases List.mem_cons.1 member with rfl | member
      · exact blank
      · exact step none character member
    · have unmarked : isBlank first = false := by simpa using blank
      rcases splitWhen_cases isBlank rest with ⟨start, others, cut, _⟩
      simp [words, splitWhen, unmarked, cut] at none

/-- The first word of a text, the blanks before it, and what follows it. -/
theorem words_eq_cons {text word : List Char} {others : List (List Char)}
    (found : words text = word :: others) :
    ∃ lead after, text = lead ++ word ++ after ∧
      (∀ character ∈ lead, isBlank character = true) ∧
      (∀ character ∈ after.head?, isBlank character = true) ∧ words after = others := by
  induction text with
  | nil => simp [words, splitWhen] at found
  | cons first rest step =>
    by_cases blank : isBlank first = true
    · rw [words_cons_of_isBlank blank] at found
      rcases step found with ⟨lead, after, rfl, blanks, next, further⟩
      refine ⟨first :: lead, after, by simp, ?_, next, further⟩
      intro character member
      rcases List.mem_cons.1 member with rfl | member
      · exact blank
      · exact blanks character member
    · have unmarked : isBlank first = false := by simpa using blank
      rcases splitWhen_cases isBlank rest with ⟨start, pieces, cut, ending⟩
      have split : words (first :: rest) = (first :: start) :: pieces.filter (!·.isEmpty) := by
        simp [words, splitWhen, unmarked, cut]
      rw [split] at found
      obtain ⟨rfl, rfl⟩ := List.cons.inj found
      rcases ending with ⟨rfl, rfl⟩ | ⟨mark, after, marks, rfl, rfl⟩
      · exact ⟨[], [], by simp, by simp, by simp, by simp [words, splitWhen]⟩
      · refine ⟨[], mark :: after, by simp, by simp, by simpa using marks, ?_⟩
        rw [words_cons_of_isBlank marks]
        rfl

/-- A run of characters between two spaces, with no blank and no comma among them, is a word of one
of the parts between the commas. -/
theorem mem_words_of_mem_splitAtChar {text word : List Char} (filled : word ≠ [])
    (member : word ∈ splitAtChar ' ' text)
    (plain : ∀ character ∈ word, isBlank character = false ∧ character ≠ ',') :
    ∃ part ∈ splitAtChar ',' text, word ∈ words part := by
  let separates (character : Char) : Bool := isBlank character || character == ','
  have whole : splitWhen separates word = [word] := by
    apply splitWhen_of_plain
    intro character inside
    simp [separates, plain character inside]
  have found : word ∈ splitWhen separates text := by
    rw [← flatMap_splitWhen (· == ' '), ← splitAtChar_eq_splitWhen]
    · exact List.mem_flatMap.2 ⟨word, member, by simp [whole]⟩
    · intro character space
      rw [beq_iff_eq.1 space]
      decide
  rw [← flatMap_splitWhen (· == ','), ← splitAtChar_eq_splitWhen] at found
  · rcases List.mem_flatMap.1 found with ⟨part, isPart, inside⟩
    refine ⟨part, isPart, ?_⟩
    have blanks : splitWhen separates part = splitWhen isBlank part := by
      apply splitWhen_congr
      intro character later
      have other : character ≠ ',' := by
        rintro rfl
        exact not_mem_of_mem_splitAtChar isPart later
      simp [separates, other]
    rw [blanks] at inside
    simpa [words, filled] using inside
  · intro character comma
    simp [separates, beq_iff_eq.1 comma]

end TableApi.Text
