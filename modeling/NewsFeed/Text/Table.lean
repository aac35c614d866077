/-
Tables of characters, written as text.

A table is a list of lines, and a line is a text of rows with blanks between them. A row starts with
a code point or, with a minus sign, a span of them, in hexadecimal digits; a sign and what the table
says of these characters may follow.
-/
import NewsFeed.Text.Basic

namespace NewsFeed.Text

/-- A row of a table. -/
structure Row where
  first : Nat
  last : Nat
  /-- What follows the span. -/
  entry : List Char
  deriving DecidableEq, Repr

namespace Row

/-- Whether a character can belong to a number. -/
def isDigit (c : Char) : Bool :=
  (hexDigit? c).isSome

/-- The number at the start of a row, and what follows it. -/
def number (row : List Char) : Nat × List Char :=
  ((hexValue? (row.takeWhile isDigit)).getD 0, row.dropWhile isDigit)

/-- Reads a row. -/
def read (row : List Char) : Row :=
  let (first, rest) := number row
  match rest with
  | '-' :: rest =>
    let (last, entry) := number rest
    { first, last, entry }
  | entry => { first, last := first, entry }

/-- Whether the row is about a character. -/
def covers (row : Row) (c : Char) : Bool :=
  row.first ≤ c.toNat && c.toNat ≤ row.last

/-- The numbers in the entry, after its sign. -/
def numbers (row : Row) : List Nat :=
  (split (· = ',') (row.entry.drop 1)).filterMap fun word =>
    if word.isEmpty then none else hexValue? word

end Row

/-- The rows of a line. -/
def rows (line : List Char) : List Row :=
  ((split (· = ' ') line).filter fun row => !row.isEmpty).map Row.read

/-- Reads a table. -/
def readTable (lines : List String) : List Row :=
  lines.flatMap fun line => rows line.toList

end NewsFeed.Text
