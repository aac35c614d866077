/-
A cursor on a JSON text, and the words of the grammar: blanks, literals, strings, numbers.

A reader (`Reading`) moves the cursor and may stop with a problem. Problems come in two kinds. A
breach of the grammar is noticed at a byte and carries its place at once: after the bytes consumed
(`stop`), or counting the byte looked at as well (`stopAhead`). A value that does not fit is noticed
when it has been read; it gets its place from the nearest enclosing reader that fixes places
(`located`), after that reader has moved past the value.

Loops are bounded by the number of bytes of the text, since every turn consumes one.
-/
import NewsFeed.Json.Fault
import NewsFeed.Json.Numeral

namespace NewsFeed.Json

/-- A place in a text, with what follows. -/
structure Cursor where
  rest : List UInt8
  /-- The number of bytes of the whole text. -/
  size : Nat
  position : Position := ⟨1, 0⟩
  /-- How many more levels of brackets may be opened, plus one. -/
  levels : Nat := 128

/-- Whether a value is read or only skipped. A skipped value is not looked at closely: its numbers
may be out of range and its surrogates unpaired. -/
inductive Care where
  | reading
  | skipping
  deriving DecidableEq, Repr

/-- A reader of text. -/
abbrev Reading (α : Type) := EStateM Problem Cursor α

/-- The ASCII code of a character. -/
def byte (c : Char) : UInt8 :=
  c.toUInt8

/-- The place after one more byte. -/
def Position.after (position : Position) (b : UInt8) : Position :=
  if b = byte '\n' then ⟨position.line + 1, 0⟩ else ⟨position.line, position.column + 1⟩

namespace Reading

open Numeral (digitsValue)

/-! ### Moving and stopping -/

/-- The next byte, left in place. -/
def peek : Reading (Option UInt8) :=
  return (← get).rest.head?

/-- Moves past one byte. -/
def advance : Reading Unit :=
  modify fun cursor => match cursor.rest with
    | [] => cursor
    | b :: rest => { cursor with rest, position := cursor.position.after b }

/-- The next byte, moving past it. -/
def next : Reading (Option UInt8) := do
  let b ← peek
  advance
  return b

/-- Stops at the cursor. -/
def stop {α : Type} (cause : Malformed) : Reading α := do
  throw { fault := .malformed cause, position := some (← get).position }

/-- Stops at the byte after the cursor, counting it if there is one. -/
def stopAhead {α : Type} (cause : Malformed) : Reading α := do
  let cursor ← get
  let position := match cursor.rest with
    | [] => cursor.position
    | b :: _ => cursor.position.after b
  throw { fault := .malformed cause, position := some position }

/-- Stops with a fault that has no place yet. -/
def refuse {α : Type} (fault : Fault) : Reading α :=
  throw { fault }

/-- The outcome of a check that knows no places. -/
def ofCheck {α : Type} : Except Fault α → Reading α
  | .ok value => pure value
  | .error fault => refuse fault

/-- Gives a problem without a place the place where the reader stopped. -/
def located {α : Type} (read : Reading α) : Reading α := fun cursor =>
  match read cursor with
  | .error { fault, position := none } cursor =>
    -- this cursor is where `read` stopped, not where it began
    .error { fault, position := some cursor.position } cursor
  | outcome => outcome

/-- A bound on the number of turns of a loop that consumes a byte in each. -/
def turns : Reading Nat :=
  return (← get).size + 1

/-! ### Blanks and literals -/

/-- Whether a byte may stand between the parts of a value. -/
def isSpace (b : UInt8) : Bool :=
  b = byte ' ' || b = byte '\n' || b = byte '\t' || b = byte '\r'

/-- Moves past bytes of a kind and returns them. -/
def takeWhile (accept : UInt8 → Bool) : Reading (List UInt8) := do
  let cursor ← get
  let taken := cursor.rest.takeWhile accept
  set { cursor with
    rest := cursor.rest.dropWhile accept
    position := taken.foldl Position.after cursor.position }
  return taken

/-- Moves past blanks and looks at the byte after them. -/
def peekPastSpace : Reading (Option UInt8) := do
  let _ ← takeWhile isSpace
  peek

/-- The bytes of a word that has been recognised by its first letter. -/
def word : List Char → Reading Unit
  | [] => pure ()
  | c :: rest => do
    match ← next with
    | none => stop .endInValue
    | some b => if b = byte c then word rest else stop .brokenWord

/-- Whether a byte is a decimal digit. -/
def isDigit (b : UInt8) : Bool :=
  byte '0' ≤ b && b ≤ byte '9'

/-! ### Strings -/

/-- Four hexadecimal digits. -/
def fourHex : Reading Nat := do
  let cursor ← get
  let digits := cursor.rest.take 4
  set { cursor with
    rest := cursor.rest.drop 4
    position := digits.foldl Position.after cursor.position }
  if digits.length < 4 then stop .endInString
  match Text.hexValue? (digits.map fun b => Char.ofNat b.toNat) with
  | some value => return value
  | none => stop .badEscape

/-- A byte that has to follow the first half of a surrogate pair. -/
def pairByte (c : Char) : Reading Unit := do
  match ← peek with
  | none => stop .endInString
  | some b =>
    advance
    if b ≠ byte c then stop .unpairedSurrogate

/-- The code point after `\u`, both halves of it if it is a surrogate pair. -/
def escapedCodePoint : Reading Nat := do
  let first ← fourHex
  if 0xdc00 ≤ first ∧ first ≤ 0xdfff then stop .strayTrailSurrogate
  else if first < 0xd800 ∨ 0xdbff < first then return first
  else
    pairByte '\\'
    pairByte 'u'
    let second ← fourHex
    if second < 0xdc00 ∨ 0xdfff < second then stop .strayTrailSurrogate
    else return 0x10000 + (first - 0xd800) * 0x400 + (second - 0xdc00)

/-- The byte that a one-letter escape stands for. -/
def shortEscape? (b : UInt8) : Option UInt8 :=
  if b = byte '"' ∨ b = byte '\\' ∨ b = byte '/' then some b
  else if b = byte 'b' then some 8
  else if b = byte 'f' then some 12
  else if b = byte 'n' then some 10
  else if b = byte 'r' then some 13
  else if b = byte 't' then some 9
  else none

/-- What follows a backslash in a string. -/
def escape (care : Care) : Reading (List UInt8) := do
  match ← next with
  | none => stop .endInString
  | some b =>
    match shortEscape? b with
    | some meant => return [meant]
    | none =>
      if b ≠ byte 'u' then stop .badEscape
      else match care with
        | .reading => return String.utf8EncodeChar (Char.ofNat (← escapedCodePoint))
        | .skipping =>
          -- halves of a surrogate pair need not fit together where nothing is read
          let _ ← fourHex
          return []

/-- The bytes of a string up to the closing quote, behind those in `before`, of which the last comes
first. -/
def quotedFrom (care : Care) (before : List UInt8) : (turns : Nat) → Reading (List UInt8)
  | 0 => stop .endInString
  | turns + 1 => do
    let plain ← takeWhile fun b => 0x20 ≤ b && b ≠ byte '"' && b ≠ byte '\\'
    let before := plain.reverse ++ before
    match ← peek with
    | none => stop .endInString
    | some b =>
      if b = byte '"' then
        advance
        return before.reverse
      else if b = byte '\\' then
        advance
        let meant ← escape care
        quotedFrom care (meant.reverse ++ before) turns
      else
        if care = .reading then advance
        stop .controlCharacter

/-- The rest of a string whose opening quote has been read. -/
def quoted : Reading String := do
  match Text.ofBytes? (← quotedFrom .reading [] (← turns)) with
  | some text => return text
  | none => stop .badEncoding

/-! ### Numbers -/

/-- The greatest exponent that is taken at its word. -/
def greatestExponent : Nat := 2147483647

/-- How many of the digits it takes to exceed the greatest exponent. -/
def excessAt? (digits : List UInt8) : Option Nat :=
  (List.range (digits.length + 1)).find? fun n => greatestExponent < digitsValue (digits.take n)

/-- What breaks the grammar when a number ends too soon. -/
def atEnd : Care → Malformed
  | .reading => .endInValue
  | .skipping => .badNumber

/-- The digits before the point: a zero alone, or digits that do not start with one. -/
def wholeDigits (care : Care) : Reading (List UInt8) := do
  match ← next with
  | none => stop (atEnd care)
  | some b =>
    if b = byte '0' then
      -- no digit may follow a zero
      if ((← peek).map isDigit).getD false then stopAhead .badNumber
      return [b]
    else if isDigit b then return b :: (← takeWhile isDigit)
    else stop .badNumber

/-- The digits after the point, if there is one. -/
def fractionDigits (care : Care) : Reading (List UInt8) := do
  if (← peek) = some (byte '.') then
    advance
    let digits ← takeWhile isDigit
    if digits.isEmpty then stopAhead (if (← peek).isNone then (atEnd care) else .badNumber)
    return digits
  else return []

/-- The exponent, if there is one. An exponent that is too large for its place stops a number that
it would make infinite. -/
def exponentPart (care : Care) (nonzero : Bool) : Reading (Option Int) := do
  let mark ← peek
  if mark = some (byte 'e') ∨ mark = some (byte 'E') then
    advance
    let sign ← peek
    if sign = some (byte '+') ∨ sign = some (byte '-') then advance
    let negative := sign = some (byte '-')
    match ← peek with
    | none => stop (atEnd care)
    | some b =>
      if !isDigit b then
        advance
        stop .badNumber
      let start ← get
      let digits ← takeWhile isDigit
      match excessAt? digits with
      -- such a number is out of range unless its digits are all zeros or it is too small; the place
      -- is that of the digit that decides
      | some count =>
        if care = .reading ∧ nonzero ∧ !negative then
          set { start with
            rest := start.rest.drop count
            position := (digits.take count).foldl Position.after start.position }
          stop .numberOutOfRange
      | none => pure ()
      return some (if negative then -(digitsValue digits : Int) else digitsValue digits)
  else return none

/-- A number without its sign. -/
def numeral (care : Care) : Reading Numeral := do
  let whole ← wholeDigits care
  let fraction ← fractionDigits care
  let exponent ← exponentPart care (digitsValue (whole ++ fraction) ≠ 0)
  return { whole, fraction, exponent }

/-- A number whose sign has been read. -/
def number (negative : Bool) : Reading Number := do
  match (← numeral .reading).value? negative with
  | some value => return value
  | none => stop .numberOutOfRange

/-! ### Values without parts -/

/-- A literal, a string or a number, if the byte ahead starts one. -/
def scalar? (ahead : UInt8) : Reading (Option Json) := do
  if ahead = byte 'n' then
    advance
    word ['u', 'l', 'l']
    return some .null
  else if ahead = byte 't' then
    advance
    word ['r', 'u', 'e']
    return some (.bool true)
  else if ahead = byte 'f' then
    advance
    word ['a', 'l', 's', 'e']
    return some (.bool false)
  else if ahead = byte '"' then
    advance
    return some (.string (← quoted))
  else if ahead = byte '-' then
    advance
    return some (.number (← number true))
  else if isDigit ahead then
    return some (.number (← number false))
  else return none

end Reading

end NewsFeed.Json
