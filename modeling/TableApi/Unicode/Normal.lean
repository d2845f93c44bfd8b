import TableApi.Unicode.Composite
import TableApi.Unicode.Mark

/-!
# The normal form of texts

One text can be written in several ways: with composites or with the characters they stand for, and
with marks in one order or another.  In the normal form the marks stand in the order of their
combining classes, and what has a composite is written as one.
-/

namespace TableApi.Unicode.Normal

/-- The most composites that stand inside each other. -/
def deepest : Nat := 4

/-- The characters that a character stands for, composites inside composites resolved; `fuel` bounds
their number. -/
def split : (fuel : Nat) → Char → List Char
  | 0, character => [character]
  | fuel + 1, character =>
      match Composite.split? character with
      | some (base, added) => split fuel base ++ [added]
      | none => [character]

/-- Puts a character before a text in order: behind the marks of lower classes. -/
def place (character : Char) : List Char → List Char
  | [] => [character]
  | next :: rest =>
      if combiningClass next != 0 && combiningClass next < combiningClass character then
        next :: place character rest
      else character :: next :: rest

/-- The text with the marks behind each character in order; marks of one class keep their order. -/
def arrange (text : List Char) : List Char :=
  text.foldr place []

/-- Whether a mark keeps a character from joining what stands before the mark. -/
def isBlocked (character : Char) (between : List Char) : Bool :=
  between.head?.any fun last => combiningClass character ≤ combiningClass last

/-- Writes a text with composites, behind a character and the marks that did not join it, the last
one first. -/
def joinBehind (base : Char) (between : List Char) : List Char → List Char
  | [] => base :: between.reverse
  | character :: rest =>
      match if isBlocked character between then none else Composite.join? base character with
      | some whole => joinBehind whole between rest
      | none =>
          if combiningClass character = 0 then
            base :: (between.reverse ++ joinBehind character [] rest)
          else joinBehind base (character :: between) rest

/-- Writes a text with composites.  Marks before the first character of their own stay. -/
def join (text : List Char) : List Char :=
  let isLoose (character : Char) : Bool := combiningClass character != 0
  text.takeWhile isLoose ++
    match text.dropWhile isLoose with
    | [] => []
    | base :: rest => joinBehind base [] rest

end Normal

def normalize (text : List Char) : List Char :=
  Normal.join (Normal.arrange (text.flatMap (Normal.split Normal.deepest)))

end TableApi.Unicode
