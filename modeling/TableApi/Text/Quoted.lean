import TableApi.Text.Visible

/-!
# Quoted texts

Messages that show a text to a person put it in double quotes.  The quote, the backslash and the
common controls have short escapes; any other character that does not show itself is written as
its code point in hexadecimal between braces.
-/

namespace TableApi.Text

/-- A number in hexadecimal, letters in lower case. -/
def hexadecimal (value : Nat) : List Char :=
  (Nat.toDigits 16 value).map Char.toLower

/-- A character as it stands inside a quoted text. -/
def quotedChar (character : Char) : List Char :=
  if character = '\x00' then ['\\', '0']
  else if character = '\t' then ['\\', 't']
  else if character = '\r' then ['\\', 'r']
  else if character = '\n' then ['\\', 'n']
  else if character = '\\' then ['\\', '\\']
  else if character = '"' then ['\\', '"']
  else if isVisible character then [character]
  else '\\' :: 'u' :: '{' :: (hexadecimal character.toNat ++ ['}'])

def quoted (text : String) : String :=
  String.ofList ('"' :: (text.toList.flatMap quotedChar ++ ['"']))

end TableApi.Text
