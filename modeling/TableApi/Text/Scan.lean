/-!
# Cutting text at marks

The statement reader, the path splitter and the filter grammars all cut a text at a mark: at
its first occurrence, or at every occurrence.  A cut loses nothing but the mark:
`append_of_cut?` puts the text together again.
-/

namespace TableApi.Text

/-- The text before and after the first occurrence of `mark`. -/
def cut? (mark : List Char) : List Char → Option (List Char × List Char)
  | [] => if mark.isEmpty then some ([], []) else none
  | character :: rest =>
      match mark.isPrefixOf? (character :: rest) with
      | some after => some ([], after)
      | none => (cut? mark rest).map fun (before, after) => (character :: before, after)

/-- The text before and after the first occurrence of one character. -/
def cutAt? (mark : Char) : List Char → Option (List Char × List Char)
  | [] => none
  | character :: rest =>
      if character = mark then
        some ([], rest)
      else
        (cutAt? mark rest).map fun (before, after) => (character :: before, after)

def occurs (mark text : List Char) : Bool :=
  (cut? mark text).isSome

/-- The pieces between the occurrences of `mark`, read from the left. -/
def splitAt (mark text : List Char) : List (List Char) :=
  match cut? mark text with
  | none => [text]
  | some (before, after) =>
      if after.length < text.length then
        before :: splitAt mark after
      else
        [before, after]
termination_by text.length

/-- The pieces between the occurrences of one character. -/
def splitAtChar (mark : Char) (text : List Char) : List (List Char) :=
  match text with
  | [] => [[]]
  | character :: rest =>
      if character = mark then
        [] :: splitAtChar mark rest
      else
        match splitAtChar mark rest with
        | [] => [[character]]
        | piece :: pieces => (character :: piece) :: pieces

/-- The text without one occurrence of `lead` at its start. -/
def dropLead? (lead text : List Char) : Option (List Char) :=
  lead.isPrefixOf? text

/-- The text without one occurrence of `tail` at its end. -/
def dropTail? (tail text : List Char) : Option (List Char) :=
  (tail.reverse.isPrefixOf? text.reverse).map List.reverse

/-- The text without any of the occurrences of `tail` that it ends with. -/
def dropTails (tail text : List Char) : List Char :=
  match dropTail? tail text with
  | none => text
  | some shorter =>
      if shorter.length < text.length then dropTails tail shorter else text
termination_by text.length

/-- The pieces joined with `mark` between each two. -/
def joinWith (mark : List Char) : List (List Char) → List Char
  | [] => []
  | [piece] => piece
  | piece :: pieces => piece ++ mark ++ joinWith mark pieces

theorem append_of_isPrefixOf? {lead text rest : List Char}
    (found : lead.isPrefixOf? text = some rest) : lead ++ rest = text := by
  induction lead generalizing text with
  | nil =>
    have whole : some text = some rest := found
    simpa using whole.symm
  | cons character lead step =>
    cases text with
    | nil =>
      have never : none = some rest := found
      simp at never
    | cons other text =>
      have found : (if character == other then lead.isPrefixOf? text else none) = some rest := found
      split at found
      · rename_i same
        rw [List.cons_append, step found, beq_iff_eq.1 same]
      · simp at found

/-- A cut loses nothing but the mark. -/
theorem append_of_cut? {mark text before after : List Char}
    (found : cut? mark text = some (before, after)) : before ++ mark ++ after = text := by
  induction text generalizing before with
  | nil =>
    simp only [cut?] at found
    split at found
    · rename_i empty
      simp_all
    · simp at found
  | cons character rest step =>
    simp only [cut?] at found
    split at found
    · rename_i tail lead
      simp only [Option.some.injEq, Prod.mk.injEq] at found
      obtain ⟨rfl, rfl⟩ := found
      exact append_of_isPrefixOf? lead
    · obtain ⟨⟨inner, outer⟩, cut, equal⟩ := Option.map_eq_some_iff.1 found
      simp only [Prod.mk.injEq] at equal
      obtain ⟨rfl, rfl⟩ := equal
      simp [← step cut]

end TableApi.Text
