/-!
# Blank characters

Filters, header values and documents are trimmed and cut into words at the characters that
carry the Unicode property White_Space.  This module holds the table of that property, the
three trims, and the cut into words.
-/

namespace TableApi.Text

/-- The characters with the Unicode property White_Space. -/
def isBlank (character : Char) : Bool :=
  let code := character.toNat
  (9 ≤ code && code ≤ 13) || code == 0x20 || code == 0x85 || code == 0xA0 ||
    code == 0x1680 || (0x2000 ≤ code && code ≤ 0x200A) || code == 0x2028 ||
    code == 0x2029 || code == 0x202F || code == 0x205F || code == 0x3000

/-- The text without the blanks it starts with. -/
def trimStart (text : List Char) : List Char :=
  text.dropWhile isBlank

/-- The text without its last characters, as long as they satisfy `dropped`. -/
def dropWhileEnd (dropped : Char → Bool) (text : List Char) : List Char :=
  (text.reverse.dropWhile dropped).reverse

/-- The text without the blanks it ends with. -/
def trimEnd (text : List Char) : List Char :=
  dropWhileEnd isBlank text

/-- The text without the blanks at either end. -/
def trim (text : List Char) : List Char :=
  trimEnd (trimStart text)

/-- The text between the separators: one piece more than there are separators. -/
def splitWhen (separates : Char → Bool) : List Char → List (List Char)
  | [] => [[]]
  | character :: rest =>
      if separates character then
        [] :: splitWhen separates rest
      else
        match splitWhen separates rest with
        | [] => [[character]]
        | piece :: pieces => (character :: piece) :: pieces

/-- The maximal runs of characters that are not blank. -/
def words (text : List Char) : List (List Char) :=
  (splitWhen isBlank text).filter fun piece => !piece.isEmpty

/-- A string without the blanks at either end. -/
def trimmed (text : String) : String :=
  String.ofList (trim text.toList)

theorem splitWhen_ne_nil (separates : Char → Bool) (text : List Char) :
    splitWhen separates text ≠ [] := by
  cases text with
  | nil => simp [splitWhen]
  | cons character rest =>
    simp only [splitWhen]
    split
    · simp
    · split <;> simp

@[simp]
theorem toList_trimmed (text : String) : (trimmed text).toList = trim text.toList := by
  simp [trimmed]

end TableApi.Text
