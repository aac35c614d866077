/-
Domains: names of hosts in ASCII, made of labels with dots between them.

Every character is mapped (`mapped?`), the result is composed, and every label is brought to its
ASCII form. Some ASCII characters are not allowed in a domain at all, and a domain in which
directions of writing meet has to be readable in one way only.

A label that is all ASCII is written as it is. Any other label is written in Punycode behind `xn--`;
a label that starts with `xn--` already has to be the Punycode of such a label.
-/
import NewsFeed.Host.Direction
import NewsFeed.Host.Joining
import NewsFeed.Host.Mapping
import NewsFeed.Host.Punycode
import NewsFeed.Text.Basic
import NewsFeed.Text.Composition

namespace NewsFeed.Host

/-! ### Labels -/

/-- A label of a domain. -/
structure Label where
  /-- What a reader sees. -/
  text : List Char
  /-- The form in ASCII. -/
  ascii : List Char
  deriving DecidableEq, Repr

namespace Label

/-- What a label in Punycode starts with. -/
def lead : List Char := ['x', 'n', '-', '-']

/-- The greatest number of characters that Punycode is used for. -/
def longestText : Nat := 1000

/-- The greatest number of characters that are read as Punycode. -/
def longestCode : Nat := 2000

/-- Whether a label can be written in Punycode: some character is not ASCII, all are kept as they
are, no mark stands at the start, every joiner stands where it may, everything that can be joined is
joined, and the label is not too long. -/
def isExtended (label : List Char) : Bool :=
  !label.all isAscii && label.length ≤ longestText && label.all isKept &&
    !label.head?.any Text.isMark && joinersFit [] label && Text.composed label == label

/-- Reads a label; none if it is not allowed. -/
def read? (label : List Char) : Option Label :=
  if lead <+: label then
    let code := label.drop lead.length
    if label.all isAscii ∧ code.length ≤ longestCode then
      ((Punycode.decode code).filter isExtended).map fun text => { text, ascii := label }
    else none
  else if label.all isAscii then some { text := label, ascii := label }
  else if isExtended label then some { text := label, ascii := lead ++ Punycode.encode label }
  else none

end Label

/-! ### Domains -/

/-- Whether an ASCII character is not allowed in a domain: blanks and control characters, and what
separates the parts of an address. -/
def isForbidden (c : Char) : Bool :=
  c.toNat ≤ 0x20 || c.toNat = 0x7f || "%#/:<>?@[\\]^|".toList.contains c

/-- The labels of a domain in ASCII; none if the text is no domain. -/
def labels? (text : List Char) : Option (List (List Char)) := do
  let mapped ← text.mapM mapped?
  let text := Text.composed mapped.flatten
  if text.any isForbidden then none
  else
    let labels ← (Text.split (· = '.') text).mapM Label.read?
    if readOneWay (labels.map (·.text)) then return labels.map (·.ascii) else none

/-- The text with the given labels. -/
def joinLabels (labels : List (List Char)) : List Char :=
  ['.'].intercalate labels

end NewsFeed.Host
