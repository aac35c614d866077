/-
JSON values written as documents for people: one item or entry a line, two blanks of indentation for
each level, and empty brackets closed on the spot.
-/
import NewsFeed.Decimal.Layout
import NewsFeed.Json.Basic
import NewsFeed.Text.Quoted

namespace NewsFeed.Json

/-- A number in a document. -/
def Number.write : Number → String
  | .natural value => toString value
  | .negative value => toString value
  | .real value => Decimal.Layout.document.write value

/-- A line break and the indentation of a level. -/
def newLine (level : Nat) : String :=
  "\n".pushn ' ' (2 * level)

/-- The parts of a bracket, each on a line of its own at `level + 1`. -/
def bracketed (opening closing : String) (level : Nat) (parts : List String) : String :=
  if parts.isEmpty then opening ++ closing
  else
    opening ++ newLine (level + 1) ++ ("," ++ newLine (level + 1)).intercalate parts ++
      newLine level ++ closing

mutual

/-- A value that starts on a line of the given level. -/
def writeAt (level : Nat) : Json → String
  | .null => "null"
  | .bool value => toString value
  | .number value => value.write
  | .string value => Text.quoteForDocument value
  | .array items => bracketed "[" "]" level (writeItems (level + 1) items)
  | .object entries => bracketed "\x7b" "\x7d" level (writeEntries (level + 1) entries)

/-- The items of an array. -/
def writeItems (level : Nat) : List Json → List String
  | [] => []
  | item :: rest => item.writeAt level :: writeItems level rest

/-- The entries of an object. -/
def writeEntries (level : Nat) : List (String × Json) → List String
  | [] => []
  | (key, value) :: rest =>
    (Text.quoteForDocument key ++ ": " ++ value.writeAt level) :: writeEntries level rest

end

/-- A value as a document. -/
def write (json : Json) : String :=
  json.writeAt 0

end NewsFeed.Json
