import TableApi.Text.Percent
import TableApi.Text.Utf8

/-!
# Escapes in addresses

Each part of an address has characters that may not stand in it as they are.  They are written as
the bytes of their UTF-8 form, each as a percent sign and two hexadecimal digits.
-/

namespace TableApi.Address

/-- Whether a character may not stand in any part: a control character or one beyond ASCII. -/
def isControl (character : Char) : Bool :=
  character.toNat < 0x20 || 0x7F ≤ character.toNat

def escape (more : List Char) (text : List Char) : List Char :=
  text.flatMap fun character =>
    if isControl character || more.contains character then
      (Text.Utf8.encodeChar character).flatMap Text.escapeByte
    else [character]

def inFragment : List Char :=
  " \"<>".toList ++ [Char.ofNat 0x60]

def inPath : List Char :=
  inFragment ++ "#?\x7b\x7d".toList

def inCredentials : List Char :=
  inPath ++ "/:;=@[\\]^|".toList

def inQuery (special : Bool) : List Char :=
  " \"#<>".toList ++ if special then [Char.ofNat 0x27] else []

/-- The text that an escaped part stands for, if it is one. -/
def unescape? (part : List Char) : Option (List Char) :=
  (Text.Utf8.decode (Text.unescapeBytes (Text.Utf8.encode part))).toOption

end TableApi.Address
