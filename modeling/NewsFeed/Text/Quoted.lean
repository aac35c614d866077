/-
Quoted strings, in the two forms the program writes.

`quoteForDocument` is the JSON form: only quotes, backslashes and control characters are escaped.
`quoteForMessage` is the form in which messages show a string: what cannot be seen is escaped as
well, with its code point in braces.
-/
import NewsFeed.Text.Basic
import NewsFeed.Text.Visible

namespace NewsFeed.Text

/-- One character of a string in a document. -/
def escapeForDocument (c : Char) : String :=
  if c = '"' then "\\\""
  else if c = '\\' then "\\\\"
  else if c = '\n' then "\\n"
  else if c = '\r' then "\\r"
  else if c = '\t' then "\\t"
  else if c.toNat = 8 then "\\b"
  else if c.toNat = 12 then "\\f"
  else if c.toNat < 0x20 then
    let digits := hex c.toNat
    "\\u" ++ "".pushn '0' (4 - digits.length) ++ digits
  else String.singleton c

/-- A string as it stands in a document. -/
def quoteForDocument (text : String) : String :=
  "\"" ++ String.join (text.toList.map escapeForDocument) ++ "\""

/-- One character of a string in a message. -/
def escapeForMessage (c : Char) : String :=
  if c = '"' then "\\\""
  else if c = '\\' then "\\\\"
  else if c = '\n' then "\\n"
  else if c = '\r' then "\\r"
  else if c = '\t' then "\\t"
  else if c.toNat = 0 then "\\0"
  else if isVisible c then String.singleton c
  else "\\u" ++ "\x7b" ++ hex c.toNat ++ "\x7d"

/-- A string as it stands in a message. -/
def quoteForMessage (text : String) : String :=
  "\"" ++ String.join (text.toList.map escapeForMessage) ++ "\""

end NewsFeed.Text
