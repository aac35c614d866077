/-
Time stamps: instants as text.

`Instant.write` gives the one written form, in UTC with a `Z`, the shortest of 0, 3, 6 or 9 decimal
places and a sign only on years of more than four digits or below zero. `Instant.read` accepts more:
blanks between the parts, numbers without leading zeros, a blank in place of the `T`, any offset
from UTC. It checks each number as soon as it is read; whether the day exists and whether the offset
and the result are in range is decided last.
-/
import NewsFeed.Text.Basic
import NewsFeed.Time.Instant

namespace NewsFeed.Time

/-- Why a text is no time stamp. -/
inductive StampFault where
  /-- The text ends too soon. -/
  | premature
  /-- A character stands where it cannot. -/
  | badCharacter
  /-- Text is left over. -/
  | trailing
  /-- A number is too large, or there is no such day. -/
  | outOfRange
  /-- The time has no counterpart in UTC within the range. -/
  | noSuchInstant
  deriving DecidableEq, Repr

/-- The wording of a fault. -/
def StampFault.message : StampFault → String
  | .premature => "premature end of input"
  | .badCharacter => "input contains invalid characters"
  | .trailing => "trailing input"
  | .outOfRange => "input is out of range"
  | .noSuchInstant => "no possible date and time matching input"

/-! ### Reading -/

/-- A reader of time stamps: takes characters from the front or says what is wrong. -/
abbrev Scan (α : Type) := StateT (List Char) (Except StampFault) α

namespace Scan

/-- Leaves out blanks. -/
def blanks : Scan Unit :=
  modify Text.trimStart

/-- Refuses the text. -/
def fault {α : Type} (cause : StampFault) : Scan α :=
  throw cause

/-- The character `c`. -/
def literal (c : Char) : Scan Unit := do
  match ← get with
  | [] => fault .premature
  | d :: rest => if d = c then set rest else fault .badCharacter

/-- A digit's value. -/
def digit (c : Char) : Nat :=
  c.toNat - '0'.toNat

/-- At least one and at most `width` digits: their value and their number. -/
def digits (width : Nat) : Scan (Nat × Nat) := do
  let chars ← get
  let found := (chars.take width).takeWhile Char.isDigit
  if found.isEmpty then fault (if chars.isEmpty then .premature else .badCharacter)
  else
    set (chars.drop found.length)
    return (found.foldl (fun n c => 10 * n + digit c) 0, found.length)

/-- A number of one or two digits within bounds, blanks before it left out. -/
def number (least greatest : Nat) : Scan Nat := do
  blanks
  let (value, _) ← digits 2
  if value < least ∨ greatest < value then fault .outOfRange
  return value

/-- A year: up to four digits, or a sign and any number of digits of a 32-bit number. -/
def year : Scan Int := do
  blanks
  match ← get with
  | '-' :: rest =>
    set rest
    let (value, _) ← digits rest.length
    -- below zero a 32-bit number reaches one further
    if 2147483648 < value then fault .outOfRange
    return -value
  | '+' :: rest =>
    set rest
    let (value, _) ← digits rest.length
    if 2147483647 < value then fault .outOfRange
    return value
  | _ =>
    let (value, _) ← digits 4
    return value

/-- The letter `T` in either case, or a blank in its place. -/
def separator : Scan Unit := do
  match ← get with
  | [] => fault .premature
  | c :: rest => if c = 'T' ∨ c = 't' ∨ c = ' ' then set rest else fault .badCharacter

/-- The nanoseconds after a point; digits past the ninth are dropped. -/
def fraction : Scan Nat := do
  match ← get with
  | '.' :: rest =>
    set rest
    let (value, count) ← digits 9
    modify (List.dropWhile Char.isDigit)
    return value * Nat.pow 10 (9 - count)
  | _ => return 0

/-- Two digits that have to stand there. A text of a single plain character is too short for them.
-/
def twoDigits (onHighTens : StampFault) (tens : Nat) : Scan Nat := do
  match ← get with
  | [] => fault .premature
  | [c] => fault (if c.toNat < 128 then .premature else .badCharacter)
  | c :: d :: rest =>
    if !(c.isDigit && d.isDigit) then fault .badCharacter
    else if tens < digit c then fault onHighTens
    else
      set rest
      return 10 * digit c + digit d

/-- The offset from UTC in seconds. -/
def offset : Scan Int := do
  match ← get with
  | [] => fault .premature
  | c :: rest =>
    if c = 'Z' ∨ c = 'z' then
      set rest
      return 0
    else if (c :: rest.take 2).map Char.toLower = ['u', 't', 'c'] then
      set (rest.drop 2)
      return 0
    -- the minus sign may be the typographical one
    else if c = '+' ∨ c = '-' ∨ c = '\u2212' then
      set rest
      let hours ← twoDigits .badCharacter 9
      modify (List.dropWhile fun c => c = ':' || Text.isBlank c)
      let minutes ← twoDigits .outOfRange 5
      let seconds : Int := hours * 3600 + minutes * 60
      return if c = '+' then seconds else -seconds
    else fault .badCharacter

/-- A whole time stamp. -/
def instant : Scan Instant := do
  let year ← year
  blanks
  literal '-'
  let month ← number 1 12
  blanks
  literal '-'
  let day ← number 1 31
  separator
  let hour ← number 0 23
  blanks
  literal ':'
  let minute ← number 0 59
  blanks
  literal ':'
  let second ← number 0 60
  let fraction ← fraction
  blanks
  let offset ← offset
  blanks
  if !(← get).isEmpty then fault .trailing
  -- each number is in its range; what is left is whether there are such a day and such a moment
  let date : Date := ⟨year, month, day⟩
  if ¬ date.Exists ∨ date.toDays < firstDay ∨ lastDay < date.toDays then fault .outOfRange
  if 86400 ≤ offset.natAbs then fault .outOfRange
  -- a leap second is kept as a long second 59
  let (second, nano) := if second = 60 then (59, fraction + 1000000000) else (second, fraction)
  let seconds : Int := hour * 3600 + minute * 60 + second - offset
  match Instant.of? (date.toDays + seconds / 86400) (seconds % 86400).toNat nano with
  | some instant => return instant
  | none => fault .noSuchInstant

end Scan

/-- Reads a time stamp. -/
def Instant.read (text : String) : Except StampFault Instant :=
  Scan.instant.run' text.toList

/-! ### Writing -/

/-- A number with zeros in front up to `width` digits. -/
def padded (width n : Nat) : String :=
  let digits := toString n
  "".pushn '0' (width - digits.length) ++ digits

/-- A year: four digits, with a sign and as many digits as it takes outside of 0 to 9999. -/
def writeYear (year : Int) : String :=
  if 0 ≤ year ∧ year ≤ 9999 then padded 4 year.toNat
  else (if year < 0 then "-" else "+") ++ padded 4 year.natAbs

/-- The fraction of a second in the fewest of 0, 3, 6 and 9 places. -/
def writeFraction (nano : Nat) : String :=
  if nano = 0 then ""
  else if nano % 1000000 = 0 then "." ++ padded 3 (nano / 1000000)
  else if nano % 1000 = 0 then "." ++ padded 6 (nano / 1000)
  else "." ++ padded 9 nano

/-- The written form of an instant. -/
def Instant.write (t : Instant) : String :=
  let date := Date.ofDays t.day
  let second := t.second % 60 + if t.isLeap then 1 else 0
  writeYear date.year ++ "-" ++ padded 2 date.month ++ "-" ++ padded 2 date.day ++ "T" ++
    padded 2 (t.second / 3600) ++ ":" ++ padded 2 (t.second / 60 % 60) ++ ":" ++ padded 2 second ++
    writeFraction (t.nano % 1000000000) ++ "Z"

end NewsFeed.Time
