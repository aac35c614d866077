/-
Reading from a text.

Values are met in the order of the text. A problem inside brackets is reported only after the
closing bracket has been tried (`enclosed`), so a missing field is placed behind the brace that ends
its record. Values of no interest are skipped by a reader of its own (`skip`), which keeps the open
brackets in a list and so has no limit on their depth; values that are set aside until a tag is
known are read into a tree (`tree`), whose depth is limited.
-/
import NewsFeed.Json.Cursor
import NewsFeed.Json.Tree

namespace NewsFeed.Json.Reading

/-! ### Brackets -/

/-- The closing bracket of a list. -/
def closeList : Reading Unit := do
  match ← peekPastSpace with
  | none => stopAhead .endInList
  | some b =>
    if b = byte ']' then advance
    else if b = byte ',' then
      advance
      if (← peekPastSpace) = some (byte ']') then stopAhead .trailingComma
      else stopAhead .trailingCharacters
    else stopAhead .trailingCharacters

/-- The closing brace of an object. -/
def closeObject : Reading Unit := do
  match ← peekPastSpace with
  | none => stopAhead .endInObject
  | some b =>
    if b = byte '\x7d' then advance
    else if b = byte ',' then stopAhead .trailingComma
    else stopAhead .trailingCharacters

/-- Reads what stands between brackets. The closing bracket is tried even when the inside has
stopped with a problem, which is then the one reported. -/
def enclosed {α : Type} (close : Reading Unit) (inside : Reading α) : Reading α := do
  let levels := (← get).levels
  if levels ≤ 1 then stopAhead .tooDeep
  advance
  modify ({ · with levels := levels - 1 })
  fun cursor =>
    match inside cursor with
    | .ok value cursor => (close *> pure value) { cursor with levels }
    -- the result of `close` does not count, but how far it got does: a problem may take its place
    -- from there
    | .error problem cursor =>
      match close { cursor with levels } with
      | .ok _ cursor => .error problem cursor
      | .error _ cursor => .error problem cursor

/-- Whether a list goes on, moving up to the next element. -/
def moreElements (first : Bool) : Reading Bool := do
  match ← peekPastSpace with
  | none => stopAhead .endInList
  | some b =>
    if b = byte ']' then return false
    else if first then return true
    else if b = byte ',' then
      advance
      match ← peekPastSpace with
      | none => stopAhead .endInValue
      | some b => if b = byte ']' then stopAhead .trailingComma else return true
    else stopAhead .expectedCommaOrBracket

/-- Whether an object goes on, moving up to the quote of the next key. -/
def moreEntries (first : Bool) : Reading Bool := do
  match ← peekPastSpace with
  | none => stopAhead .endInObject
  | some b =>
    if b = byte '\x7d' then return false
    else if first then
      if b = byte '"' then return true else stopAhead .keyNotString
    else if b = byte ',' then
      advance
      match ← peekPastSpace with
      | none => stopAhead .endInValue
      | some b =>
        if b = byte '"' then return true
        else if b = byte '\x7d' then stopAhead .trailingComma
        else stopAhead .keyNotString
    else stopAhead .expectedCommaOrBrace

/-- The key that `moreEntries` has found. -/
def key : Reading String := do
  advance
  quoted

/-- The colon after a key. -/
def colon : Reading Unit := do
  match ← peekPastSpace with
  | none => stopAhead .endInObject
  | some b => if b = byte ':' then advance else stopAhead .expectedColon

/-- The elements of a list. -/
def elementsFrom {α : Type} (read : Reading α) (before : List α) (first : Bool) :
    (turns : Nat) → Reading (List α)
  | 0 => stop .endInList
  | turns + 1 => do
    if ← moreElements first then
      elementsFrom read (before ++ [← read]) false turns
    else return before

/-- Handles the entries of an object one by one. -/
def entriesFrom {σ : Type} (add : σ → String → Reading σ) (seen : σ) (first : Bool) :
    (turns : Nat) → Reading σ
  | 0 => stop .endInObject
  | turns + 1 => do
    if ← moreEntries first then
      entriesFrom add (← add seen (← key)) false turns
    else return seen

/-- The elements of a list, up to its closing bracket. -/
def elements {α : Type} (read : Reading α) : Reading (List α) := do
  elementsFrom read [] true (← turns)

/-- The entries of an object, up to its closing brace. -/
def entries {σ : Type} (add : σ → String → Reading σ) (start : σ) : Reading σ := do
  entriesFrom add start true (← turns)

/-! ### Skipping -/

/-- An open bracket of a skipped value. -/
inductive Bracket where
  | list
  | object
  deriving DecidableEq, Repr

/-- The byte that closes a bracket. -/
def Bracket.closing : Bracket → UInt8
  | .list => byte ']'
  | .object => byte '\x7d'

/-- What is missing when a text ends inside a bracket. -/
def Bracket.atEnd : Bracket → Malformed
  | .list => .endInList
  | .object => .endInObject

/-- What is missing between two parts of a bracket. -/
def Bracket.betweenParts : Bracket → Malformed
  | .list => .expectedCommaOrBracket
  | .object => .expectedCommaOrBrace

/-- Moves up to the next value inside a bracket, past its key if it has one. -/
def skipKey : Bracket → Reading Unit
  | .list => pure ()
  | .object => do
    match ← peekPastSpace with
    | none => stopAhead .endInObject
    | some b =>
      if b ≠ byte '"' then stopAhead .keyNotString
      advance
      let _ ← quotedFrom .skipping [] (← turns)
      colon

/-- Skips a value without parts, or the bracket that opens one: `none`, or the bracket. -/
def skipStart : Reading (Option Bracket) := do
  match ← peekPastSpace with
  | none => stopAhead .endInValue
  | some b =>
    if b = byte '[' then
      advance
      return some .list
    else if b = byte '\x7b' then
      advance
      return some .object
    else if b = byte '"' then
      advance
      let _ ← quotedFrom .skipping [] (← turns)
      return none
    else if b = byte '-' then
      advance
      let _ ← numeral .skipping
      return none
    else if isDigit b then
      let _ ← numeral .skipping
      return none
    else
      match ← scalar? b with
      | some _ => return none
      | none => stopAhead .expectedValue

/-- What is due while a value is skipped: another value, or the rest of the innermost bracket, which
may go on with a comma unless it has just been opened. -/
inductive Due where
  | value
  | closing (opened : Bool)

/-- Skips the rest of a value inside the given brackets, innermost first. -/
def skipFrom : Due → List Bracket → (turns : Nat) → Reading Unit
  | _, _, 0 => stopAhead .endInValue
  | .value, brackets, turns + 1 => do
    match ← skipStart with
    | none => skipFrom (.closing false) brackets turns
    | some bracket => skipFrom (.closing true) (bracket :: brackets) turns
  | .closing _, [], _ => pure ()
  | .closing opened, bracket :: brackets, turns + 1 => do
    match ← peekPastSpace with
    | none => stopAhead bracket.atEnd
    | some b =>
      -- no comma comes before the first part
      if b = byte ',' ∧ !opened then
        advance
        skipKey bracket
        skipFrom .value (bracket :: brackets) turns
      else if b = bracket.closing then
        advance
        skipFrom (.closing false) brackets turns
      else if opened then
        skipKey bracket
        skipFrom .value (bracket :: brackets) turns
      else stopAhead bracket.betweenParts

/-- Skips a value. -/
def skip : Reading Unit := do
  -- a value takes a turn for its start and one for what follows it
  skipFrom .value [] (2 * (← turns) + 2)

/-! ### Trees -/

/-- Reads a value as it stands, with at most `levels` levels of brackets. -/
def treeWithin : (levels : Nat) → Reading Json
  | 0 => stopAhead .tooDeep
  | levels + 1 => located do
    match ← peekPastSpace with
    | none => stopAhead .endInValue
    | some b =>
      if b = byte '[' then
        return .array (← enclosed closeList (elements (treeWithin levels)))
      else if b = byte '\x7b' then
        let add (before : List (String × Json)) (name : String) :
            Reading (List (String × Json)) := do
          colon
          return before ++ [(name, ← treeWithin levels)]
        return .object (← enclosed closeObject (entries add []))
      else
        match ← scalar? b with
        | some value => return value
        | none => stopAhead .expectedValue

/-- Reads a value as it stands. -/
def tree : Reading Json := do
  treeWithin ((← get).levels)

/-! ### Shapes -/

/-- Refuses the value ahead, of which only the first byte is known: a value without parts is read,
brackets are left in place. -/
def refuseAhead {α : Type} (ahead : UInt8) (expected : Expected) : Reading α := located do
  if ahead = byte '[' then refuse (.wrongType .sequence expected)
  else if ahead = byte '\x7b' then refuse (.wrongType .map expected)
  else
    match ← scalar? ahead with
    | some value => refuse (.wrongType value.found expected)
    | none => stopAhead .expectedValue

/-- Looks at the first byte of a value. -/
def startOfValue : Reading UInt8 := do
  match ← peekPastSpace with
  | none => stopAhead .endInValue
  | some b => return b

def bool : Reading Bool := do
  let b ← startOfValue
  if b = byte 't' ∨ b = byte 'f' then
    match ← scalar? b with
    | some (.bool value) => return value
    | _ => stopAhead .expectedValue
  else refuseAhead b .bool

def string {α : Type} (expected : Expected) (take : String → Except Fault α) : Reading α := do
  let b ← startOfValue
  if b = byte '"' then
    advance
    let text ← quoted
    located (ofCheck (take text))
  else refuseAhead b expected

def numberValue {α : Type} (expected : Expected) (take : Number → Except Fault α) :
    Reading α := do
  let b ← startOfValue
  if b = byte '-' then
    advance
    let value ← number true
    located (ofCheck (take value))
  else if isDigit b then
    let value ← number false
    located (ofCheck (take value))
  else refuseAhead b expected

def option {α : Type} (read : Reading α) : Reading (Option α) := do
  if (← peekPastSpace) = some (byte 'n') then
    advance
    word ['u', 'l', 'l']
    return none
  else return some (← read)

def list {α : Type} (read : Reading α) : Reading (List α) := located do
  let b ← startOfValue
  if b = byte '[' then enclosed closeList (elements read)
  else refuseAhead b .list

def dict {α : Type} (read : Reading α) : Reading (Dict α) := located do
  let b ← startOfValue
  if b = byte '\x7b' then
    let add (before : Dict α) (name : String) : Reading (Dict α) := do
      colon
      return before.insert name (← read)
    enclosed closeObject (entries add ∅)
  else refuseAhead b .dict

/-- Reads the value of one key of a record into its slot. -/
def addField {τs : List Type} (fields : Fields Reading τs) (slots : Slots τs) (name : String) :
    Reading (Slots τs) :=
  match fields.lookup name slots with
  | .unknown => do
    colon
    skip
    return slots
  | .repeated => refuse (.duplicateField name)
  | .fill read put => do
    colon
    return put (← read)

/-- Reads the elements of an array into the slots in turn. -/
def fillRow {τs : List Type} : Fields Reading τs → (first : Bool) → Reading (Slots τs)
  | .nil, _ => return ()
  | .cons _ read _ rest, first => do
    if ← moreElements first then
      let value ← read
      return (some value, ← fillRow rest false)
    else return (none, Slots.blank _)

def record {α : Type} {τs : List Type} (title : String) (fields : Fields Reading τs)
    (build : Values τs → α) : Reading α := located do
  let b ← startOfValue
  if b = byte '\x7b' then
    enclosed closeObject do
      let slots ← entries (addField fields) (Slots.blank τs)
      return build (← ofCheck (fields.complete (fun _ name => .missingField name) 0 slots))
  else if b = byte '[' then
    enclosed closeList do
      let slots ← fillRow fields true
      -- in an array the place of a missing field is reported, and not its name
      let missing (place : Nat) (_ : String) : Fault :=
        .wrongLength place (.row title fields.size)
      return build (← ofCheck (fields.complete missing 0 slots))
  else refuseAhead b (.record title)

/-- The key of a choice given as an object with one key. -/
def choiceKey {α : Type} (variants : List (String × α)) : Reading α := do
  match ← peekPastSpace with
  | none => stopAhead .endInObject
  | some b =>
    if b = byte '"' then string .variantName (Tree.variant variants)
    else if b = byte '\x7d' then stopAhead .expectedValue
    else stopAhead .keyNotString

/-- The closing brace of a choice given as an object with one key. -/
def closeChoice : Reading Unit := do
  match ← peekPastSpace with
  | none => stop .endInObject
  | some b => if b = byte '\x7d' then advance else stop .expectedValue

def choice {α : Type} (variants : List (String × α)) : Reading α := do
  match ← peekPastSpace with
  | none => stopAhead .endInValue
  | some b =>
    if b = byte '"' then
      string .variantName (Tree.variant variants)
    else if b = byte '\x7b' then
      let levels := (← get).levels
      if levels ≤ 1 then stopAhead .tooDeep
      advance
      let value ← choiceKey variants
      colon
      -- the variants have no content, which is written as `null`
      let ahead ← startOfValue
      if ahead = byte 'n' then
        advance
        word ['u', 'l', 'l']
      else refuseAhead ahead .unit
      closeChoice
      return value
    else stopAhead .expectedValue

/-- Handles one key of a choice whose tag is a field: reads the tag, sets other values aside. -/
def addTagged {α : Type} (variants : List (String × α))
    (seen : Option α × List (String × Json)) (name : String) :
    Reading (Option α × List (String × Json)) := do
  if name = "type" then
    if seen.1.isSome then refuse (.duplicateField "type")
    colon
    return (some (← string .variantName (Tree.variant variants)), seen.2)
  else
    colon
    return (seen.1, seen.2 ++ [(name, ← tree)])

/-- The variant that a tag names and the rest of the value, set aside. -/
def tagAndRest {α : Type} (name : String) (variants : List (String × α)) : Reading (α × Json) :=
  located do
    let b ← startOfValue
    if b = byte '\x7b' then
      enclosed closeObject do
        match ← entries (addTagged variants) (none, []) with
        | (none, _) => refuse (.missingField "type")
        | (some value, others) => return (value, .object others)
    else if b = byte '[' then
      enclosed closeList do
        if ← moreElements true then
          let value ← string .variantName (Tree.variant variants)
          return (value, .array (← elementsFrom tree [] false (← turns)))
        else refuse (.missingField "type")
    else refuseAhead b (.tagged name)

/-- The value that was set aside is read when the text is behind the cursor, so its problems have no
place of their own. -/
def tagged {α : Type} (name : String) (variants : List (String × Tree α)) : Reading α := do
  let (read, others) ← tagAndRest name variants
  ofCheck (read .setAside others)

/-- Handles one key of a choice given by tag and content. A content that comes before the tag is set
aside. -/
def addLabelled {α : Type} (variants : List (String × (String → α)))
    (seen : Tree.Labelled α) (name : String) : Reading (Tree.Labelled α) := do
  if name = "type" then
    match seen with
    | .nothing =>
      colon
      return .variant (← choice variants)
    | .content json =>
      colon
      let build ← choice variants
      let value ← ofCheck (Tree.string .string (fun text => .ok (build text)) .setAside json)
      return .whole value
    | .variant _ | .whole _ => refuse (.duplicateField "type")
  else if name = "id" then
    match seen with
    | .nothing =>
      colon
      return .content (← tree)
    | .variant build =>
      colon
      return .whole (← string .string (fun text => .ok (build text)))
    | .content _ | .whole _ => refuse (.duplicateField "id")
  else
    colon
    skip
    return seen

def labelled {α : Type} (name : String) (variants : List (String × (String → α))) : Reading α :=
  located do
    let b ← startOfValue
    if b = byte '\x7b' then
      enclosed closeObject do
        ofCheck (← entries (addLabelled variants) .nothing).complete
    else if b = byte '[' then
      enclosed closeList do
        if ← moreElements true then
          let build ← string .variantName (Tree.variant variants)
          if ← moreElements false then string .string (fun text => .ok (build text))
          else refuse (.wrongLength 1 (.labelled name))
        else refuse (.wrongLength 0 (.labelled name))
    else refuseAhead b (.labelled name)

instance : Source Reading where
  bool := bool
  string := string
  number := numberValue
  option := option
  list := list
  dict := dict
  record := record
  choice := choice
  tagged := tagged
  labelled := labelled

/-- The end of the text. -/
def finish : Reading Unit := do
  if (← peekPastSpace).isSome then stopAhead .trailingCharacters

end NewsFeed.Json.Reading

namespace NewsFeed.Json

/-- Reads a text that holds one value. -/
def readText {α : Type} (read : Reading α) (text : String) : Except Problem α :=
  let bytes := text.toUTF8.toList
  match (read <* Reading.finish) { rest := bytes, size := bytes.length } with
  | .ok value _ => .ok value
  | .error problem _ => .error problem

end NewsFeed.Json
