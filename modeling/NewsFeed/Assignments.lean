/-
Variables set by a file of assignments, one `NAME=VALUE` a line.

Values may be quoted, refer to other variables after a dollar sign, and be followed by a comment. A
quote that is still open at the end of a line goes on in the next one. Variables that are set
already keep their values, unless these are not text. The first line that is no assignment, no
comment and not blank, or that is not UTF-8, ends the reading; what stands before it counts.

* `lines` — the bytes of a file in texts that can be read one by one;
* `value?` — the value of an assignment;
* `Environment.withAssignments` — the variables after those in a file have been added.
-/
import NewsFeed.Environment
import NewsFeed.Text.Alphanumeric
import NewsFeed.Text.Basic

namespace NewsFeed.Assignments

/-! ### Lines -/

/-- Where a line stands as far as quotes and comments go. -/
inductive Scan where
  | outside
  /-- Behind a blank, where a comment may start. -/
  | blank
  /-- Behind a backslash. -/
  | escape
  | single
  | singleEscape
  | double
  | doubleEscape
  deriving DecidableEq, Repr

namespace Scan

/-- Where a line stands behind a character outside of quotes. -/
def start (c : Char) : Scan :=
  if c = '\\' then .escape else if c = '"' then .double else if c = '\'' then .single else .outside

/-- Where a line stands behind one more character. -/
def next : Scan → Char → Scan
  | .outside, c => if Text.isBlank c ∧ c ≠ '\n' ∧ c ≠ '\r' then .blank else start c
  | .blank, c => start c
  | .escape, _ => .outside
  | .single, c => if c = '\\' then .singleEscape else if c = '\'' then .outside else .single
  | .singleEscape, _ => .single
  | .double, c => if c = '\\' then .doubleEscape else if c = '"' then .outside else .double
  | .doubleEscape, _ => .double

/-- The part of a line before its comment, and where it stands at its end unless a comment has come
first. -/
def upToComment : Scan → List Char → List Char × Option Scan
  | state, [] => ([], some state)
  | state, c :: rest =>
    if state = .blank ∧ c = '#' then ([], none)
    else
      let (kept, final) := upToComment (state.next c) rest
      (c :: kept, final)

end Scan

/-- The bytes of a file cut behind the line breaks. -/
def cutLines : List UInt8 → List (List UInt8)
  | [] => []
  | b :: rest =>
    if b = '\n'.toUInt8 then [b] :: cutLines rest
    else match cutLines rest with
      | [] => [[b]]
      | line :: lines => (b :: line) :: lines

/-- The texts of lines, up to the first that is not UTF-8. -/
def decodeLines : List (List UInt8) → List (List Char)
  | [] => []
  | line :: lines =>
    match Text.ofBytes? line with
    | some text => text.toList :: decodeLines lines
    | none => []

/-- Whether a line holds nothing but a comment. -/
def isComment (line : List Char) : Bool :=
  (Text.trimStart line).head? = some '#'

/-- Puts lines together as long as something is open at their end, and leaves out comments. `before`
is what has been put together so far. Something that is never closed is left out. -/
def joinOpen (state : Scan) (before : List Char) : List (List Char) → List (List Char)
  | [] => []
  | line :: lines =>
    if isComment (before ++ line) then joinOpen .outside [] lines
    else match state.upToComment line with
      | (kept, none) | (kept, some .outside) => (before ++ kept) :: joinOpen .outside [] lines
      | (kept, some state) => joinOpen state (before ++ kept) lines

/-- The bytes that a file may start with to tell its encoding. -/
def byteOrderMark : List UInt8 := [0xef, 0xbb, 0xbf]

/-- The lines of a file, with what belongs together in one. -/
def lines (bytes : List UInt8) : List (List Char) :=
  let bytes := if byteOrderMark <+: bytes then bytes.drop byteOrderMark.length else bytes
  joinOpen .outside [] (decodeLines (cutLines bytes))

/-! ### Values -/

/-- How the part of a value that is being read is quoted. -/
inductive Quoting where
  | none
  | single
  | double
  deriving DecidableEq, Repr

/-- What is being read inside a value. -/
inductive Part where
  | text
  /-- What follows a backslash. -/
  | escape
  /-- The name of a variable, as far as it has been read. -/
  | reference (name : List Char)
  /-- The name of a variable in braces, as far as it has been read. -/
  | braced (name : List Char)
  /-- The blanks behind the value. -/
  | over
  deriving DecidableEq, Repr

/-- The character that a backslash and a character stand for. -/
def escaped? (c : Char) : Option Char :=
  if c = 'n' then some '\n'
  else if c = '\\' ∨ c = '\'' ∨ c = '"' ∨ c = '$' ∨ c = ' ' then some c
  else .none

/-- Reads the rest of a value. `lookup` gives the values of variables. The character that ends the
name of a variable is taken as it is, unless it is a dollar sign. -/
def valueFrom (lookup : List Char → List Char) :
    Quoting → Part → List Char → Option (List Char)
  | quoting, part, [] =>
    match quoting, part with
    | .none, .reference name => some (lookup name)
    | .none, .braced _ => .none
    | .none, _ => some []
    | _, _ => .none
  | quoting, .over, c :: rest =>
    if c = ' ' ∨ c = '\t' then valueFrom lookup quoting .over rest
    else if c = '#' then some []
    else .none
  | quoting, .escape, c :: rest =>
    (escaped? c).bind fun c => (valueFrom lookup quoting .text rest).map (c :: ·)
  | quoting, .reference name, c :: rest =>
    if Text.isAlphanumeric c then valueFrom lookup quoting (.reference (name ++ [c])) rest
    else if c = '\x7b' ∧ name = [] then valueFrom lookup quoting (.braced []) rest
    else if c = '$' then (valueFrom lookup quoting (.reference []) rest).map (lookup name ++ ·)
    else (valueFrom lookup quoting .text rest).map (lookup name ++ c :: ·)
  | quoting, .braced name, c :: rest =>
    if c = '\x7d' then (valueFrom lookup quoting .text rest).map (lookup name ++ ·)
    else valueFrom lookup quoting (.braced (name ++ [c])) rest
  | .single, .text, c :: rest =>
    if c = '\'' then valueFrom lookup .none .text rest
    else (valueFrom lookup .single .text rest).map (c :: ·)
  | .double, .text, c :: rest =>
    if c = '$' then valueFrom lookup .double (.reference []) rest
    else if c = '"' then valueFrom lookup .none .text rest
    else if c = '\\' then valueFrom lookup .double .escape rest
    else (valueFrom lookup .double .text rest).map (c :: ·)
  | .none, .text, c :: rest =>
    if c = '$' then valueFrom lookup .none (.reference []) rest
    else if c = '\'' then valueFrom lookup .single .text rest
    else if c = '"' then valueFrom lookup .double .text rest
    else if c = '\\' then valueFrom lookup .none .escape rest
    else if c = ' ' ∨ c = '\t' then valueFrom lookup .none .over rest
    else (valueFrom lookup .none .text rest).map (c :: ·)

/-- Reads a value. -/
def value? (lookup : List Char → List Char) (text : List Char) : Option (List Char) :=
  -- a comment may follow the equals sign at once
  if text.head? = some '#' then some [] else valueFrom lookup .none .text text

/-! ### Assignments -/

/-- Whether a name can start with a character. -/
def startsName (c : Char) : Bool :=
  c.isAlpha || c = '_'

/-- Whether a name can contain a character. -/
def continuesName (c : Char) : Bool :=
  c.isAlphanum || c = '_' || c = '.'

/-- Reads a name and the equals sign after it. -/
def name? (text : List Char) : Option (List Char × List Char) :=
  if text.head?.any startsName then
    match Text.trimStart (text.dropWhile continuesName) with
    | '=' :: rest => some (text.takeWhile continuesName, Text.trimStart rest)
    | _ => .none
  else .none

/-- Reads a name and the equals sign after it; the word `export` may stand in front. -/
def exportedName? (text : List Char) : Option (List Char × List Char) :=
  -- a variable may be called `export` itself
  (name? text).or <|
    if text.takeWhile continuesName = "export".toList then
      name? (Text.trimStart (text.dropWhile continuesName))
    else .none

/-- What a line says. -/
inductive Line where
  | nothing
  | assignment (name value : String)
  | malformed
  deriving DecidableEq, Repr

/-- Reads a line. -/
def Line.read (environment : Environment) (line : List Char) : Line :=
  let text := Text.trimStart (Text.trimStart line.reverse).reverse
  let lookup (name : List Char) :=
    ((environment.get? (String.ofList name)).map String.toList).getD []
  if text.isEmpty then .nothing
  else match exportedName? text with
    | .none => .malformed
    | some (name, rest) =>
      match value? lookup rest with
      | .none => .malformed
      | some value => .assignment (String.ofList name) (String.ofList value)

/-- Whether a variable can have a value: no value holds a zero. -/
def isPossible (value : String) : Bool :=
  !value.toList.contains '\x00'

/-- Handles lines up to the first that is no assignment. None if a variable is to be set to what it
cannot be. -/
def addLines (environment : Environment) : List (List Char) → Option Environment
  | [] => some environment
  | line :: rest =>
    match Line.read environment line with
    | .nothing => addLines environment rest
    | .malformed => some environment
    | .assignment name value =>
      if (environment.get? name).isSome then addLines environment rest
      else if isPossible value then addLines (environment.set name value) rest
      else .none

end NewsFeed.Assignments

namespace NewsFeed

/-- The variables after those in a file of assignments have been added. None if a variable is to be
set to what it cannot be. -/
def Environment.withAssignments (environment : Environment) (file : ByteArray) :
    Option Environment :=
  Assignments.addLines environment (Assignments.lines file.toList)

end NewsFeed
