import TableApi.Domain.Direction
import TableApi.Domain.Joining
import TableApi.Domain.Mapping
import TableApi.Domain.Punycode
import TableApi.Unicode.Normal

/-!
# Domain names

A domain name is a sequence of labels with dots between them.  It is looked up in ASCII, so each
label is brought into a form in which only one of all names that readers do not tell apart is left,
and a label with characters beyond ASCII is written in ASCII behind the mark `xn--`.  A label that
comes in this form has to be one that writing could have given.
-/

namespace TableApi.Domain

open Unicode

/-- What a label in ASCII that stands for another one starts with. -/
def mark : List Char :=
  "xn--".toList

def isAscii (text : List Char) : Bool :=
  text.all fun character => character.toNat < 0x80

/-- Whether an ASCII character may not stand in a domain name. -/
def isForbidden (character : Char) : Bool :=
  character.toNat ≤ 0x20 || "%#/:<>?@[\\]^|\x7f".toList.contains character

/-- The most characters of a label that is written in ASCII. -/
def longestLabel : Nat := 1000

/-- The most characters behind the mark of a label that stands for another one. -/
def longestForm : Nat := 2000

/-- A label: what readers see, and its form in ASCII. -/
structure Label where
  shown : List Char
  ascii : List Char
deriving DecidableEq, Repr

namespace Label

/-- The label that stands behind the mark of a form in ASCII.  It has to be as mapping and normal
form would leave it. -/
def ofForm? (form : List Char) : Option Label :=
  if longestForm < form.length then none
  else
    match Punycode.decode? form with
    | some shown =>
        if !isAscii shown && shown.all Mapping.isKept && normalize shown = shown then
          some ⟨shown, mark ++ form⟩
        else none
    | none => none

/-- The label of a text that has been mapped and is in normal form. -/
def ofText? (text : List Char) : Option Label :=
  match Text.dropLead? mark text with
  | some form => if isAscii text then ofForm? form else none
  | none =>
      if isAscii text then some ⟨text, text⟩
      else if longestLabel < text.length then none
      else some ⟨text, mark ++ Punycode.encode text⟩

/-- Whether the marks and the joiners of a label have something to belong to. -/
def isSettled (label : Label) : Bool :=
  !label.shown.head?.any isMark && Joining.areAllowed [] label.shown

end Label

/-- The labels of a domain name, which all have to be good ones. -/
def labels? (name : List Char) : Option (List Label) := do
  let text := normalize (← Mapping.ofText? name)
  if text.any isForbidden then none
  else
    let labels ← (Text.splitAtChar '.' text).mapM Label.ofText?
    if labels.all Label.isSettled && Direction.agree (labels.map Label.shown) then some labels
    else none

/-- Whether a domain name is ASCII and none of its labels stands for another one. -/
def isPlain (name : List Char) : Bool :=
  isAscii name &&
    (Text.splitAtChar '.' (name.map Char.toLower)).all fun label => !mark.isPrefixOf label

/-- The form of a domain name in ASCII. -/
def toAscii? (name : List Char) : Option (List Char) :=
  if isPlain name then
    if name.any isForbidden then none else some (name.map Char.toLower)
  else (labels? name).map fun labels => Text.joinWith ['.'] (labels.map Label.ascii)

end TableApi.Domain
