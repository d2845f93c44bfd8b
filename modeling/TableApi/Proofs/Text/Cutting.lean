import TableApi.Proofs.Text.Words

/-!
# Cutting a text where it was put together

A text that was put together from pieces is read by cutting it at the marks between them.  The cut
finds the first occurrence of its mark, so it gives the pieces back when the mark does not occur
early.  For a mark of one character, or one whose first character is in no piece, that is plain.

The other marks are words between spaces, and the pieces before them hold spaces of their own.  Such
a text is `spaced`: a space and then a piece, over and over.  A word between spaces occurs among
spaced pieces only if it is one of them, which is what `cut?_spaced` says.
-/

namespace TableApi.Text

/-! ## Leads and tails -/

theorem isPrefixOf?_nil (text : List Char) : [].isPrefixOf? text = some text := rfl

theorem isPrefixOf?_cons (first other : Char) (lead text : List Char) :
    (first :: lead).isPrefixOf? (other :: text) =
      if first == other then lead.isPrefixOf? text else none := rfl

@[simp]
theorem dropLead?_append (lead rest : List Char) : dropLead? lead (lead ++ rest) = some rest := by
  induction lead with
  | nil => rfl
  | cons first lead step =>
    rw [dropLead?, List.cons_append, isPrefixOf?_cons, if_pos (beq_self_eq_true first)]
    exact step

/-- A text drops only a lead that it starts with. -/
theorem dropLead?_eq_none {lead text : List Char} (apart : ¬lead <+: text) :
    dropLead? lead text = none := by
  cases found : dropLead? lead text with
  | none => rfl
  | some rest => exact absurd ⟨rest, append_of_isPrefixOf? found⟩ apart

@[simp]
theorem dropTail?_append (text tail : List Char) : dropTail? tail (text ++ tail) = some text := by
  have found := dropLead?_append tail.reverse text.reverse
  simp only [dropLead?] at found
  simp [dropTail?, found]

theorem dropTail?_eq_none {tail text : List Char} (apart : ¬tail <:+ text) :
    dropTail? tail text = none := by
  have absent : tail.reverse.isPrefixOf? text.reverse = none :=
    dropLead?_eq_none (by rwa [List.reverse_prefix])
  simp [dropTail?, absent]

/-- What is dropped at the end stood there. -/
theorem append_of_dropTail? {tail text front : List Char}
    (found : dropTail? tail text = some front) : front ++ tail = text := by
  rcases Option.map_eq_some_iff.1 found with ⟨rest, lead, rfl⟩
  have whole := congrArg List.reverse (append_of_isPrefixOf? lead)
  simpa using whole

/-- A mark that ends in a character of no later text starts before that text. -/
theorem prefix_of_prefix_append {mark text tail : List Char} {last : Char}
    (ends : mark.getLast? = some last) (absent : last ∉ tail) (starts : mark <+: text ++ tail) :
    mark <+: text := by
  rcases List.prefix_or_prefix_of_prefix starts (List.prefix_append text tail) with
    inside | ⟨rest, rfl⟩
  · exact inside
  · rw [List.prefix_append_right_inj] at starts
    cases behind : rest.getLast? with
    | none =>
      obtain rfl := List.getLast?_eq_none_iff.1 behind
      simp
    | some final =>
      rw [List.getLast?_append, behind] at ends
      obtain rfl := Option.some.inj ends
      exact absurd (starts.subset (List.mem_of_getLast? behind)) absent

/-- A tail is dropped as often as it stands at the end, here once. -/
theorem dropTails_append {text tail : List Char} (filled : tail ≠ []) (apart : ¬tail <:+ text) :
    dropTails tail (text ++ tail) = text := by
  have shorter : text.length < (text ++ tail).length := by
    simpa using List.length_pos_iff.2 filled
  rw [dropTails, dropTail?_append]
  simp only [shorter, if_true]
  rw [dropTails, dropTail?_eq_none apart]

/-! ## One mark -/

theorem cutAt?_of_not_mem {mark : Char} {text : List Char} (absent : mark ∉ text) :
    cutAt? mark text = none := by
  induction text with
  | nil => rfl
  | cons character rest step =>
    have other : character ≠ mark := fun same => absent (by simp [same])
    have later : mark ∉ rest := fun member => absent (List.mem_cons_of_mem _ member)
    simp [cutAt?, other, step later]

theorem cutAt?_append {mark : Char} {before : List Char} (absent : mark ∉ before)
    (after : List Char) : cutAt? mark (before ++ mark :: after) = some (before, after) := by
  induction before with
  | nil => simp [cutAt?]
  | cons character before step =>
    have other : character ≠ mark := fun same => absent (by simp [same])
    have later : mark ∉ before := fun member => absent (List.mem_cons_of_mem _ member)
    simp [cutAt?, other, step later]

/-- A mark at the very start is where the text is cut. -/
theorem cut?_append_self {mark : List Char} (filled : mark ≠ []) (after : List Char) :
    cut? mark (mark ++ after) = some ([], after) := by
  cases mark with
  | nil => exact absurd rfl filled
  | cons first others =>
    have found := dropLead?_append (first :: others) after
    simp only [dropLead?, List.cons_append] at found
    simp [cut?, found]

/-- A character at which the mark does not start belongs to the text before the cut. -/
theorem cut?_cons {mark : List Char} {character : Char} {rest : List Char}
    (apart : ¬mark <+: character :: rest) :
    cut? mark (character :: rest) =
      (cut? mark rest).map fun cut => (character :: cut.1, cut.2) := by
  have absent := dropLead?_eq_none apart
  simp only [dropLead?] at absent
  simp [cut?, absent]

/-- A cut passes over a text in which the mark cannot start. -/
theorem cut?_append {first : Char} {mark before : List Char} (absent : first ∉ before)
    (rest : List Char) :
    cut? (first :: mark) (before ++ rest) =
      (cut? (first :: mark) rest).map fun cut => (before ++ cut.1, cut.2) := by
  induction before with
  | nil => simp
  | cons character before step =>
    have later : first ∉ before := fun member => absent (List.mem_cons_of_mem _ member)
    have apart : ¬(first :: mark) <+: character :: (before ++ rest) := by
      intro starts
      exact absent (by simp [(List.cons_prefix_cons.1 starts).1])
    rw [List.cons_append, cut?_cons apart, step later]
    simp [Function.comp_def]

theorem cut?_of_not_mem {first : Char} {mark text : List Char} (absent : first ∉ text) :
    cut? (first :: mark) text = none := by
  have passed : cut? (first :: mark) (text ++ []) = _ := cut?_append absent []
  simpa [cut?] using passed

/-- The text is cut at a mark that cannot start earlier. -/
theorem cut?_between {first : Char} {mark before : List Char} (absent : first ∉ before)
    (after : List Char) :
    cut? (first :: mark) (before ++ (first :: mark) ++ after) = some (before, after) := by
  rw [List.append_assoc, cut?_append absent, cut?_append_self (by simp)]
  simp

/-- A text with a mark in it is cut somewhere. -/
theorem cut?_ne_none {mark : List Char} (filled : mark ≠ []) (before after : List Char) :
    cut? mark (before ++ mark ++ after) ≠ none := by
  induction before with
  | nil =>
    rw [List.nil_append, cut?_append_self filled]
    simp
  | cons character before step =>
    simp only [List.cons_append, cut?]
    split
    · simp
    · simpa using step

/-! ## Many marks -/

theorem splitAt_of_cut?_none {mark text : List Char} (uncut : cut? mark text = none) :
    splitAt mark text = [text] := by
  rw [splitAt, uncut]

theorem splitAt_of_cut? {mark text before after : List Char} (filled : mark ≠ [])
    (cut : cut? mark text = some (before, after)) :
    splitAt mark text = before :: splitAt mark after := by
  have shorter : after.length < text.length := by
    have positive : 0 < mark.length := List.length_pos_iff.2 filled
    rw [← append_of_cut? cut]
    simp only [List.length_append]
    omega
  rw [splitAt, cut]
  simp [shorter]

/-- Joined pieces are split where they were joined. -/
theorem splitAt_intercalate {first : Char} {mark : List Char} {pieces : List (List Char)}
    (some : pieces ≠ []) (absent : ∀ piece ∈ pieces, first ∉ piece) :
    splitAt (first :: mark) ((first :: mark).intercalate pieces) = pieces := by
  induction pieces with
  | nil => exact absurd rfl some
  | cons piece pieces step =>
    have plain : first ∉ piece := absent piece List.mem_cons_self
    cases pieces with
    | nil => simpa using splitAt_of_cut?_none (cut?_of_not_mem plain)
    | cons other pieces =>
      have others := step (by simp) fun later member => absent later (List.mem_cons_of_mem _ member)
      rw [List.intercalate_cons_cons, splitAt_of_cut? (by simp) (cut?_between plain _), others]

theorem not_mem_intercalate {character : Char} {mark : List Char} {pieces : List (List Char)}
    (unmarked : character ∉ mark) (absent : ∀ piece ∈ pieces, character ∉ piece) :
    character ∉ mark.intercalate pieces := by
  induction pieces with
  | nil => simp
  | cons piece pieces step =>
    have others := step fun later member => absent later (List.mem_cons_of_mem _ member)
    have here := absent piece List.mem_cons_self
    cases pieces with
    | nil => simpa using here
    | cons other pieces =>
      rw [List.intercalate_cons_cons]
      simp [here, unmarked, others]

theorem splitAtChar_of_not_mem {mark : Char} {piece : List Char} (absent : mark ∉ piece) :
    splitAtChar mark piece = [piece] := by
  induction piece with
  | nil => rfl
  | cons character rest step =>
    have other : character ≠ mark := fun same => absent (by simp [same])
    have later : mark ∉ rest := fun member => absent (List.mem_cons_of_mem _ member)
    simp [splitAtChar, other, step later]

theorem splitAtChar_append {mark : Char} {piece : List Char} (absent : mark ∉ piece)
    (rest : List Char) :
    splitAtChar mark (piece ++ mark :: rest) = piece :: splitAtChar mark rest := by
  induction piece with
  | nil => simp [splitAtChar]
  | cons character piece step =>
    have other : character ≠ mark := fun same => absent (by simp [same])
    have later : mark ∉ piece := fun member => absent (List.mem_cons_of_mem _ member)
    simp [splitAtChar, other, step later]

/-- Joined pieces are split where they were joined, at a mark of one character. -/
theorem splitAtChar_joinWith {mark : Char} {pieces : List (List Char)} (some : pieces ≠ [])
    (absent : ∀ piece ∈ pieces, mark ∉ piece) :
    splitAtChar mark (joinWith [mark] pieces) = pieces := by
  induction pieces with
  | nil => exact absurd rfl some
  | cons piece pieces step =>
    have plain : mark ∉ piece := absent piece List.mem_cons_self
    cases pieces with
    | nil => exact splitAtChar_of_not_mem plain
    | cons other pieces =>
      have others := step (by simp) fun later member => absent later (List.mem_cons_of_mem _ member)
      rw [joinWith_cons _ _ (by simp), List.append_assoc, List.singleton_append,
        splitAtChar_append plain, others]

/-! ## Spaced pieces -/

/-- The pieces, each with a space before it. -/
def spaced (pieces : List (List Char)) : List Char :=
  pieces.flatMap fun piece => ' ' :: piece

@[simp]
theorem spaced_nil : spaced [] = [] := rfl

@[simp]
theorem spaced_cons (piece : List Char) (pieces : List (List Char)) :
    spaced (piece :: pieces) = ' ' :: (piece ++ spaced pieces) := rfl

@[simp]
theorem spaced_append (first second : List (List Char)) :
    spaced (first ++ second) = spaced first ++ spaced second := by
  simp [spaced]

/-- Pieces joined by spaces are spaced, but for the first one. -/
theorem joinWith_space (piece : List Char) (pieces : List (List Char)) :
    joinWith [' '] (piece :: pieces) = piece ++ spaced pieces := by
  induction pieces generalizing piece with
  | nil => simp [joinWith]
  | cons other pieces step =>
    rw [joinWith_cons _ _ (by simp), step]
    simp

/-- Spaced pieces end as the last of them does. -/
theorem spaced_ends {pieces : List (List Char)} {condition : Char → Prop} (some : pieces ≠ [])
    (ends : ∀ piece ∈ pieces, ∃ before last, piece = before ++ [last] ∧ condition last) :
    ∃ before last, spaced pieces = before ++ [last] ∧ condition last := by
  induction pieces with
  | nil => exact absurd rfl some
  | cons piece pieces step =>
    cases pieces with
    | nil =>
      rcases ends piece List.mem_cons_self with ⟨before, last, rfl, holds⟩
      exact ⟨' ' :: before, last, by simp, holds⟩
    | cons other pieces =>
      rcases step (by simp) fun later member => ends later (List.mem_cons_of_mem _ member) with
        ⟨before, last, same, holds⟩
      refine ⟨' ' :: (piece ++ before), last, ?_, holds⟩
      rw [spaced_cons, same]
      simp

/-- Of spaced pieces without blanks at either end only the space before the first is trimmed. -/
theorem trim_spaced {first : Char} {others : List Char} {pieces : List (List Char)}
    (starts : isBlank first = false)
    (ends : ∀ piece ∈ (first :: others) :: pieces,
      ∃ before last, piece = before ++ [last] ∧ isBlank last = false) :
    trim (spaced ((first :: others) :: pieces)) = first :: others ++ spaced pieces := by
  have front : trimStart (spaced ((first :: others) :: pieces)) =
      first :: others ++ spaced pieces := by
    have blank : isBlank ' ' = true := by decide
    simp [trimStart, blank, starts]
  rcases spaced_ends (by simp) ends with ⟨before, last, same, plain⟩
  cases before with
  | nil => simp at same
  | cons space before =>
    have whole : first :: others ++ spaced pieces = before ++ [last] := (List.cons.inj same).2
    rw [trim, front, whole]
    simp [trimEnd, dropWhileEnd, plain]

/-- The pieces of a text between its single spaces, spaced out again. -/
theorem spaced_splitAtChar (text : List Char) : spaced (splitAtChar ' ' text) = ' ' :: text := by
  induction text with
  | nil => rfl
  | cons character rest step =>
    simp only [splitAtChar]
    split
    · rename_i same
      simp [step, same]
    · cases split : splitAtChar ' ' rest with
      | nil => exact absurd split (splitAtChar_ne_nil ' ' rest)
      | cons piece pieces =>
        rw [split] at step
        simpa using step

theorem splitAtChar_spaced {piece : List Char} {pieces : List (List Char)}
    (plain : ∀ other ∈ piece :: pieces, ' ' ∉ other) :
    splitAtChar ' ' (piece ++ spaced pieces) = piece :: pieces := by
  induction pieces generalizing piece with
  | nil => simpa using splitAtChar_of_not_mem (plain piece List.mem_cons_self)
  | cons other pieces step =>
    rw [spaced_cons, splitAtChar_append (plain piece List.mem_cons_self),
      step fun later member => plain later (List.mem_cons_of_mem _ member)]

/-- A word with a space behind it starts a text only if the text has that word up to its first
space. -/
theorem eq_of_prefix_of_space {word more piece rest : List Char} (plainWord : ' ' ∉ word)
    (plain : ' ' ∉ piece) (next : ∀ first ∈ rest.head?, first = ' ')
    (starts : word ++ ' ' :: more <+: piece ++ rest) : piece = word := by
  induction word generalizing piece with
  | nil =>
    cases piece with
    | nil => rfl
    | cons character piece =>
      have same := (List.cons_prefix_cons.1 starts).1
      exact absurd (by rw [← same]; exact List.mem_cons_self) plain
  | cons letter word step =>
    have other : ' ' ≠ letter := by
      rintro rfl
      exact plainWord List.mem_cons_self
    cases piece with
    | nil =>
      cases rest with
      | nil => simp at starts
      | cons first rest =>
        have same := (List.cons_prefix_cons.1 starts).1
        exact absurd ((next first rfl).symm.trans same.symm) other
    | cons character piece =>
      rcases List.cons_prefix_cons.1 starts with ⟨rfl, later⟩
      rw [step (fun member => plainWord (List.mem_cons_of_mem _ member))
        (fun member => plain (List.mem_cons_of_mem _ member)) later]

/--
A cut at a word between spaces passes over spaced pieces none of which is that word.
-/
theorem cut?_spaced {word more rest : List Char} {pieces : List (List Char)}
    (plainWord : ' ' ∉ word) (plain : ∀ piece ∈ pieces, ' ' ∉ piece)
    (other : ∀ piece ∈ pieces, piece ≠ word) (next : ∀ first ∈ rest.head?, first = ' ') :
    cut? (' ' :: (word ++ ' ' :: more)) (spaced pieces ++ rest) =
      (cut? (' ' :: (word ++ ' ' :: more)) rest).map fun cut =>
        (spaced pieces ++ cut.1, cut.2) := by
  induction pieces with
  | nil => simp
  | cons piece pieces step =>
    have later := step (fun piece member => plain piece (List.mem_cons_of_mem _ member))
      (fun piece member => other piece (List.mem_cons_of_mem _ member))
    have follows : ∀ first ∈ (spaced pieces ++ rest).head?, first = ' ' := by
      cases pieces with
      | nil => simpa using next
      | cons other pieces => simp
    have apart : ¬(' ' :: (word ++ ' ' :: more)) <+: ' ' :: (piece ++ (spaced pieces ++ rest)) := by
      intro starts
      have same := eq_of_prefix_of_space plainWord (plain piece List.mem_cons_self) follows
        (List.cons_prefix_cons.1 starts).2
      exact other piece List.mem_cons_self same
    rw [spaced_cons, List.cons_append, List.append_assoc, cut?_cons apart,
      cut?_append (plain piece List.mem_cons_self), later]
    simp [Function.comp_def]

/-- Spaced pieces none of which is the word between the spaces of a mark are not cut at it. -/
theorem cut?_spaced_eq_none (word more : List Char) {pieces : List (List Char)}
    (plainWord : ' ' ∉ word) (plain : ∀ piece ∈ pieces, ' ' ∉ piece)
    (other : ∀ piece ∈ pieces, piece ≠ word) :
    cut? (' ' :: (word ++ ' ' :: more)) (spaced pieces) = none := by
  have passed : cut? (' ' :: (word ++ ' ' :: more)) (spaced pieces ++ []) = _ :=
    cut?_spaced plainWord plain other (by simp)
  simpa [cut?] using passed

/-- Behind spaced pieces none of which is its word, a mark is where the text is cut. -/
theorem cut?_spaced_append (word more : List Char) {pieces : List (List Char)}
    (plainWord : ' ' ∉ word) (plain : ∀ piece ∈ pieces, ' ' ∉ piece)
    (other : ∀ piece ∈ pieces, piece ≠ word) (after : List Char) :
    cut? (' ' :: (word ++ ' ' :: more)) (spaced pieces ++ ' ' :: (word ++ ' ' :: more) ++ after) =
      some (spaced pieces, after) := by
  rw [List.append_assoc, cut?_spaced plainWord plain other (by simp),
    cut?_append_self (by simp)]
  simp

end TableApi.Text
