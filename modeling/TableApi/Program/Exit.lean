/-!
# How a program ends

A program that has run leaves behind what it printed and a code: zero for a success, one for a
failure, two for words that it does not understand.
-/

namespace TableApi

/-- The code of a program and what it printed. -/
structure Exit where
  code : Nat
  stdout : String
  stderr : String
deriving DecidableEq, Repr

namespace Exit

/-- A failure with a message, after these lines. -/
def failed (stdout message : String) : Exit :=
  ⟨1, stdout, "Error: " ++ message ++ "\n"⟩

end Exit

end TableApi
