/-
Punycode: a text of any characters written in ASCII letters, digits and hyphens.

The ASCII characters of the text come first, then a hyphen if there are any, then the other
characters by ascending code point as a row of insertions. An insertion is a number: how many steps
it takes from the place of the last one, where the steps go through all places of the text so far
and, after its end, start again for the next code point. Numbers are written in digits of a base
that adapts to them (`thresholdAt`, `adapt`), so that the end of a number can be seen.

* `encode` — the ASCII form;
* `decode` — the text of an ASCII form, none if it is no such form.
-/
namespace NewsFeed.Host.Punycode

/-- The character of a digit: the letters, then the decimal digits. -/
def digitChar (digit : Nat) : Char :=
  if digit < 26 then Char.ofNat ('a'.toNat + digit) else Char.ofNat ('0'.toNat + (digit - 26))

/-- The digit of a character. -/
def digit? (c : Char) : Option Nat :=
  if 'a' ≤ c ∧ c ≤ 'z' then some (c.toNat - 'a'.toNat)
  else if '0' ≤ c ∧ c ≤ '9' then some (c.toNat - '0'.toNat + 26)
  else none

/-- The number of digits. -/
def base : Nat := 36

/-- A number ends with a digit below the threshold. The threshold of the digit at `place`, counted
in steps of `base`, is `place - bias`, but at least 1 and at most 26. -/
def thresholdAt (bias place : Nat) : Nat :=
  min 26 (max 1 (place - bias))

theorem thresholdAt_bounds (bias place : Nat) :
    1 ≤ thresholdAt bias place ∧ thresholdAt bias place ≤ 26 := by
  unfold thresholdAt
  omega

/-- Divides a number down to at most 455 and counts the divisions in steps of `base`. -/
def shrink (delta steps : Nat) : Nat × Nat :=
  if 455 < delta then shrink (delta / 35) (steps + base) else (delta, steps)
termination_by delta
decreasing_by omega

/-- The bias after a number, when `count` characters have been placed. -/
def adapt (delta count : Nat) (isFirst : Bool) : Nat :=
  let halved := if isFirst then delta / 700 else delta / 2
  let (rest, steps) := shrink (halved + halved / count) 0
  steps + base * rest / (rest + 38)

/-- The bias of the first number. -/
def firstBias : Nat := 72

/-- The first code point beyond ASCII. -/
def firstCodePoint : Nat := 128

/-! ### Writing -/

/-- A number in digits, from `place` on. -/
def writeNumber (bias place number : Nat) : List Char :=
  let threshold := thresholdAt bias place
  if number < threshold then [digitChar number]
  else
    digitChar (threshold + (number - threshold) % (base - threshold)) ::
      writeNumber bias (place + base) ((number - threshold) / (base - threshold))
termination_by number
decreasing_by
  have bounds := thresholdAt_bounds bias place
  have := Nat.div_le_self (number - thresholdAt bias place) (base - thresholdAt bias place)
  omega

/-- An insertion: a code point, and how many of the characters placed before it stand in front of
it. -/
structure Insertion where
  codePoint : Nat
  place : Nat
  deriving DecidableEq, Repr

/-- The insertions that make a text out of its ASCII characters. -/
def insertions (text : List Char) : List Insertion :=
  let codePoints := (text.map Char.toNat).filter fun n => firstCodePoint ≤ n
  -- each code point once, in ascending order, and its places from left to right
  (codePoints.eraseDups.mergeSort (· ≤ ·)).flatMap fun codePoint =>
    text.zipIdx.filterMap fun (c, index) =>
      if c.toNat = codePoint then
        some { codePoint, place := (text.take index).countP fun d => d.toNat ≤ codePoint }
      else none

/-- Writes insertions into a text of `count` characters. The steps start at `place` of
`codePoint`. -/
def writeInsertions (codePoint place count bias : Nat) (isFirst : Bool) :
    List Insertion → List Char
  | [] => []
  | insertion :: rest =>
    -- a full turn is one step more than there are characters, for the place behind the last one
    let delta := (insertion.codePoint - codePoint) * (count + 1) + insertion.place - place
    writeNumber bias base delta ++
      writeInsertions insertion.codePoint (insertion.place + 1) (count + 1)
        (adapt delta (count + 1) isFirst) false rest

/-- The ASCII form of a text. -/
def encode (text : List Char) : List Char :=
  let basic := text.filter fun c => c.toNat < firstCodePoint
  let lead := if basic.isEmpty then [] else basic ++ ['-']
  lead ++ writeInsertions firstCodePoint 0 basic.length firstBias true (insertions text)

/-! ### Reading -/

/-- Reads a number, from `place` on: what it adds, and the rest. -/
def readNumber (bias place weight number : Nat) : List Char → Option (Nat × List Char)
  | [] => none
  | c :: rest =>
    match digit? c with
    | none => none
    | some digit =>
      let threshold := thresholdAt bias place
      let number := number + digit * weight
      if digit < threshold then some (number, rest)
      else readNumber bias (place + base) (weight * (base - threshold)) number rest

/-- The character of a code point. -/
def char? (codePoint : Nat) : Option Char :=
  if Nat.isValidChar codePoint then some (Char.ofNat codePoint) else none

/-- Reads insertions into a text, at most `turns` of them. -/
def readInsertions (codePoint place bias : Nat) (isFirst : Bool) (text : List Char) :
    (turns : Nat) → List Char → Option (List Char)
  | _, [] => some text
  | 0, _ :: _ => none
  | turns + 1, chars => do
    let (delta, rest) ← readNumber bias base 1 0 chars
    let count := text.length + 1
    let steps := place + delta
    -- the steps go on from the place behind the last insertion
    let codePoint := codePoint + steps / count
    let place := steps % count
    let c ← char? codePoint
    readInsertions codePoint (place + 1) (adapt delta count isFirst) false
      (text.take place ++ c :: text.drop place) turns rest

/-- The part before the last hyphen and the part after it. A hyphen at the start separates
nothing. -/
def splitBasic (chars : List Char) : List Char × List Char :=
  let extended := (chars.reverse.takeWhile (· ≠ '-')).reverse
  let before := chars.length - extended.length
  if before ≤ 1 then ([], chars) else (chars.take (before - 1), chars.drop before)

/-- The text of an ASCII form. -/
def decode (chars : List Char) : Option (List Char) :=
  let (basic, extended) := splitBasic chars
  readInsertions firstCodePoint 0 firstBias true basic extended.length extended

end NewsFeed.Host.Punycode
