/-
Decimal notation read as the nearest binary64 number.

`nearest` turns `digits * 10^exponent` into the closest float, ties to even. Numbers far outside of
the float range are settled by their magnitude first, so no huge power is ever computed.
-/
import NewsFeed.Decimal.Shortest

namespace NewsFeed.Decimal

/-- The float nearest to `digits * 10^exponent`: infinite from `10^309` on, zero below `10^-324`. -/
def nearest (digits : Nat) (exponent : Int) : Float :=
  let magnitude := exponent + length digits
  if digits = 0 then 0.0
  else if 310 < magnitude then Float.ofBits 0x7ff0000000000000
  else if magnitude < -330 then 0.0
  else Float.ofScientific digits (exponent < 0) exponent.natAbs

/-- The value of a list of decimal digit characters. -/
def ofDigits (digits : List Char) : Nat :=
  digits.foldl (fun n c => 10 * n + (c.toNat - '0'.toNat)) 0

/-- Why a text is not a number. -/
inductive Defect where
  /-- Nothing was given where an integer is expected. -/
  | emptyInteger
  /-- A character that no integer has. -/
  | badDigit
  /-- The integer lies above the range. -/
  | tooLarge
  /-- The integer lies below the range. -/
  | tooSmall
  /-- Nothing was given where a float is expected. -/
  | emptyFloat
  /-- The text is no float. -/
  | badFloat
  deriving DecidableEq, Repr

/-- The wording of a defect. -/
def Defect.message : Defect → String
  | .emptyInteger => "cannot parse integer from empty string"
  | .badDigit => "invalid digit found in string"
  | .tooLarge => "number too large to fit in target type"
  | .tooSmall => "number too small to fit in target type"
  | .emptyFloat => "cannot parse float from empty string"
  | .badFloat => "invalid float literal"

/-- Reads digits into a number of at most `greatest`. A character that is no digit and a number
that has become too large are both reported where they are met. -/
def readDigits (greatest : Nat) : List Char → (value : Nat) → Except Defect Nat
  | [], value => .ok value
  | c :: rest, value =>
    if c.isDigit then
      let value := 10 * value + (c.toNat - '0'.toNat)
      if greatest < value then .error .tooLarge else readDigits greatest rest value
    else .error .badDigit

/-- Reads an unsigned integer of at most `greatest`, with an optional plus sign. -/
def readNatural (greatest : Nat) (text : String) : Except Defect Nat :=
  match text.toList with
  | [] => .error .emptyInteger
  | ['+'] => .error .badDigit
  | '+' :: rest => readDigits greatest rest 0
  | chars => readDigits greatest chars 0

/-- Reads a signed integer between `-greatest - 1` and `greatest`. -/
def readInteger (greatest : Nat) (text : String) : Except Defect Int :=
  match text.toList with
  | [] => .error .emptyInteger
  | ['+'] | ['-'] => .error .badDigit
  | '-' :: rest =>
    match readDigits (greatest + 1) rest 0 with
    | .ok value => .ok (-(value : Int))
    | .error .tooLarge => .error .tooSmall
    | .error defect => .error defect
  | '+' :: rest => (readDigits greatest rest 0).map Int.ofNat
  | chars => (readDigits greatest chars 0).map Int.ofNat

/-- Reads the exponent that may end a float: nothing, or `e` with an optional sign and digits. -/
def readExponent : List Char → Option Int
  | [] => some 0
  | e :: rest =>
    if e = 'e' ∨ e = 'E' then
      let (negative, digits) := match rest with
        | '-' :: digits => (true, digits)
        | '+' :: digits => (false, digits)
        | digits => (false, digits)
      if digits.isEmpty ∨ !digits.all Char.isDigit then none
      else some (if negative then -(ofDigits digits : Int) else ofDigits digits)
    else none

/-- Reads a float without its sign: digits with an optional point, at least one digit, and an
optional exponent; or one of the words for infinity and not-a-number in any case. -/
def readUnsignedFloat (chars : List Char) : Option Float :=
  let word := chars.map Char.toLower
  if word = "inf".toList ∨ word = "infinity".toList then some (Float.ofBits 0x7ff0000000000000)
  else if word = "nan".toList then some (Float.ofBits 0x7ff8000000000000)
  else
    let whole := chars.takeWhile Char.isDigit
    let rest := chars.dropWhile Char.isDigit
    let (fraction, rest) := match rest with
      | '.' :: rest => (rest.takeWhile Char.isDigit, rest.dropWhile Char.isDigit)
      | rest => ([], rest)
    if whole.isEmpty ∧ fraction.isEmpty then none
    else (readExponent rest).map fun exponent =>
      nearest (ofDigits (whole ++ fraction)) (exponent - fraction.length)

/-- Reads a float with an optional sign. -/
def readFloat (text : String) : Except Defect Float :=
  match text.toList with
  | [] => .error .emptyFloat
  | '-' :: rest => ((readUnsignedFloat rest).map Float.neg).elim (.error .badFloat) .ok
  | '+' :: rest => (readUnsignedFloat rest).elim (.error .badFloat) .ok
  | chars => (readUnsignedFloat chars).elim (.error .badFloat) .ok

end NewsFeed.Decimal
