/-
Why JSON is refused: as text that follows no grammar (`Malformed`), or as a value of the wrong shape
for the type that is read (`Fault`). A `Problem` is a fault with the place in the text where it was
noticed, if the value was read from text. `Problem.message` gives the wording.
-/
import NewsFeed.Decimal.Layout
import NewsFeed.Json.Basic
import NewsFeed.Text.Quoted
import NewsFeed.Time.Stamp

namespace NewsFeed.Json

/-- How a text breaks the grammar. -/
inductive Malformed where
  | endInValue
  | endInList
  | endInObject
  | endInString
  | expectedValue
  | brokenWord
  | expectedCommaOrBracket
  | expectedCommaOrBrace
  | expectedColon
  | trailingComma
  | trailingCharacters
  | keyNotString
  | badEscape
  | unpairedSurrogate
  | strayTrailSurrogate
  | controlCharacter
  | badNumber
  | numberOutOfRange
  | tooDeep
  | badEncoding
  deriving DecidableEq, Repr

/-- The wording of a breach of the grammar. -/
def Malformed.message : Malformed → String
  | .endInValue => "EOF while parsing a value"
  | .endInList => "EOF while parsing a list"
  | .endInObject => "EOF while parsing an object"
  | .endInString => "EOF while parsing a string"
  | .expectedValue => "expected value"
  | .brokenWord => "expected ident"
  | .expectedCommaOrBracket => "expected `,` or `]`"
  | .expectedCommaOrBrace => "expected `,` or `\x7d`"
  | .expectedColon => "expected `:`"
  | .trailingComma => "trailing comma"
  | .trailingCharacters => "trailing characters"
  | .keyNotString => "key must be a string"
  | .badEscape => "invalid escape"
  | .unpairedSurrogate => "unexpected end of hex escape"
  | .strayTrailSurrogate => "lone leading surrogate in hex escape"
  | .controlCharacter => "control character (\\u0000-\\u001F) found while parsing a string"
  | .badNumber => "invalid number"
  | .numberOutOfRange => "number out of range"
  | .tooDeep => "recursion limit exceeded"
  | .badEncoding => "invalid unicode code point"

/-- What was found in place of what was expected. -/
inductive Found where
  | null
  | bool (value : Bool)
  | number (value : Number)
  | string (value : String)
  | sequence
  | map
  deriving DecidableEq, Repr

/-- What stands at the top of a value. -/
def found : Json → Found
  | .null => .null
  | .bool value => .bool value
  | .number value => .number value
  | .string value => .string value
  | .array _ => .sequence
  | .object _ => .map

/-- A number in a message. -/
def Number.message : Number → String
  | .natural value => s!"integer `{value}`"
  | .negative value => s!"integer `{value}`"
  | .real value => "floating point `" ++ Decimal.Layout.document.write value ++ "`"

/-- The wording of what was found. -/
def Found.message : Found → String
  | .null => "null"
  | .bool value => s!"boolean `{value}`"
  | .number value => value.message
  | .string value => "string " ++ Text.quoteForMessage value
  | .sequence => "sequence"
  | .map => "map"

/-- The kinds of whole numbers that fields hold. -/
inductive WholeKind where
  | count
  | word
  | integer
  deriving DecidableEq, Repr

/-- The name under which messages know a kind of whole number. -/
def WholeKind.name : WholeKind → String
  | .count => "usize"
  | .word => "u64"
  | .integer => "i64"

/-- A number of things in a message. -/
def plural (n : Nat) (thing : String) : String :=
  toString n ++ " " ++ thing ++ if n = 1 then "" else "s"

/-- What was expected. -/
inductive Expected where
  | string
  | bool
  | float
  | whole (kind : WholeKind)
  | list
  | dict
  | unit
  | stamp
  /-- A record, by its title. -/
  | record (title : String)
  /-- A record given as an array of so many elements. -/
  | row (title : String) (size : Nat)
  /-- A choice whose tag is one of its fields. -/
  | tagged (name : String)
  /-- A choice given by a tag and a content. -/
  | labelled (name : String)
  /-- A choice without content. -/
  | choice
  | singleKey
  | variantName
  | variantIndex (count : Nat)
  | fewerElements
  | elements (count : Nat)
  deriving DecidableEq, Repr

/-- The wording of what was expected. -/
def Expected.message : Expected → String
  | .string => "a string"
  | .bool => "a boolean"
  | .float => "f64"
  | .whole kind => kind.name
  | .list => "a sequence"
  | .dict => "a map"
  | .unit => "unit"
  | .stamp => "an RFC 3339 formatted date and time string"
  | .record title => title
  | .row title size => title ++ " with " ++ plural size "element"
  | .tagged name => "internally tagged enum " ++ name
  | .labelled name => "adjacently tagged enum " ++ name
  | .choice => "string or map"
  | .singleKey => "map with a single key"
  | .variantName => "variant identifier"
  | .variantIndex count => "variant index 0 <= i < " ++ toString count
  | .fewerElements => "fewer elements in array"
  | .elements count => plural count "element" ++ " in sequence"

/-- Why a value is refused. -/
inductive Fault where
  | malformed (cause : Malformed)
  | missingField (name : String)
  | duplicateField (name : String)
  | wrongType (found : Found) (expected : Expected)
  | wrongValue (found : Found) (expected : Expected)
  | wrongLength (length : Nat) (expected : Expected)
  | unknownVariant (name : String) (known : List String)
  | badStamp (cause : Time.StampFault)
  deriving DecidableEq, Repr

/-- The known names in a message: one, two joined by `or`, or a list. -/
def alternatives (known : List String) : String :=
  let quoted := known.map fun name => "`" ++ name ++ "`"
  match quoted with
  | [only] => "expected " ++ only
  | [first, second] => "expected " ++ first ++ " or " ++ second
  | _ => "expected one of " ++ ", ".intercalate quoted

/-- The wording of a fault. -/
def Fault.message : Fault → String
  | .malformed cause => cause.message
  | .missingField name => "missing field `" ++ name ++ "`"
  | .duplicateField name => "duplicate field `" ++ name ++ "`"
  | .wrongType found expected =>
    "invalid type: " ++ found.message ++ ", expected " ++ expected.message
  | .wrongValue found expected =>
    "invalid value: " ++ found.message ++ ", expected " ++ expected.message
  | .wrongLength length expected =>
    "invalid length " ++ toString length ++ ", expected " ++ expected.message
  | .unknownVariant name known => "unknown variant `" ++ name ++ "`, " ++ alternatives known
  | .badStamp cause => cause.message

/-- A place in a text: the line, counted from 1, and the number of bytes of it that were read. -/
structure Position where
  line : Nat
  column : Nat
  deriving DecidableEq, Repr

/-- A fault, with its place if it was noticed in a text. -/
structure Problem where
  fault : Fault
  position : Option Position := none
  deriving DecidableEq, Repr

/-- The wording of a problem. -/
def Problem.message (problem : Problem) : String :=
  problem.fault.message ++ match problem.position with
    | none => ""
    | some position =>
      " at line " ++ toString position.line ++ " column " ++ toString position.column

end NewsFeed.Json
