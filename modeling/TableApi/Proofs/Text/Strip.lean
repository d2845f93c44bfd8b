import TableApi.Text.Blank

/-!
# Texts without their ends

`strip` takes the characters of one kind away from both ends of a text; a trim strips blanks.  What
is left neither starts nor ends with a character of that kind, so stripping it again takes nothing
away.
-/

namespace TableApi.Text

variable {dropped : Char → Bool} {text : List Char}

/-- The text without the characters at either end that satisfy `dropped`. -/
def strip (dropped : Char → Bool) (text : List Char) : List Char :=
  dropWhileEnd dropped (text.dropWhile dropped)

theorem strip_prefix_dropWhile (dropped : Char → Bool) (text : List Char) :
    strip dropped text <+: text.dropWhile dropped := by
  rw [← List.reverse_suffix, strip, dropWhileEnd, List.reverse_reverse]
  exact List.dropWhile_suffix _

theorem strip_sublist (dropped : Char → Bool) (text : List Char) :
    (strip dropped text).Sublist text :=
  (strip_prefix_dropWhile dropped text).sublist.trans (List.dropWhile_sublist _)

theorem head?_dropWhile {first : Char} (found : first ∈ (text.dropWhile dropped).head?) :
    dropped first = false := by
  have next := List.head?_dropWhile_not dropped text
  rw [Option.mem_def] at found
  rw [found] at next
  exact next

theorem dropWhile_eq_self (starts : ∀ first ∈ text.head?, dropped first = false) :
    text.dropWhile dropped = text := by
  cases text with
  | nil => rfl
  | cons first rest => simp [starts first rfl]

/-- What is left of a text neither starts nor ends with what was stripped. -/
theorem ends_strip (dropped : Char → Bool) (text : List Char) :
    (∀ first ∈ (strip dropped text).head?, dropped first = false) ∧
      ∀ last ∈ (strip dropped text).getLast?, dropped last = false := by
  constructor
  · intro first found
    rcases strip_prefix_dropWhile dropped text with ⟨trail, whole⟩
    have starts : first ∈ (text.dropWhile dropped).head? := by
      rw [← whole, List.head?_append, Option.mem_def.1 found]
      rfl
    exact head?_dropWhile starts
  · intro last found
    rw [strip, dropWhileEnd, List.getLast?_reverse] at found
    exact head?_dropWhile found

/-- The texts that stripping leaves alone neither start nor end with what is stripped. -/
theorem strip_eq_self_iff :
    strip dropped text = text ↔
      (∀ first ∈ text.head?, dropped first = false) ∧
        ∀ last ∈ text.getLast?, dropped last = false := by
  constructor
  · intro stripped
    rw [← stripped]
    exact ends_strip dropped text
  · rintro ⟨starts, ends⟩
    have back : text.reverse.dropWhile dropped = text.reverse := by
      apply dropWhile_eq_self
      simpa using ends
    rw [strip, dropWhile_eq_self starts, dropWhileEnd, back, List.reverse_reverse]

theorem strip_strip (dropped : Char → Bool) (text : List Char) :
    strip dropped (strip dropped text) = strip dropped text :=
  strip_eq_self_iff.2 (ends_strip dropped text)

/-- Stripping commutes with a change of characters that it does not notice. -/
theorem strip_map {change : Char → Char}
    (unnoticed : ∀ character, dropped (change character) = dropped character) (text : List Char) :
    strip dropped (text.map change) = (strip dropped text).map change := by
  have same : dropped ∘ change = dropped := funext unnoticed
  rw [strip, strip, dropWhileEnd, dropWhileEnd, List.dropWhile_map, same, ← List.map_reverse,
    List.dropWhile_map, same, List.map_reverse]

end TableApi.Text
