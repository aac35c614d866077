/-
The values of JSON numbers.

A numeral is given by the digits before the point, the digits after it, and the exponent. Digits are
taken into a word from the left, for as long as the word stays below `2^64`. A whole number that fits
is exact. Every other number is a float: the word, rounded, and then multiplied or divided by a power
of ten. So it is not in all cases the float nearest to the numeral, as up to three roundings come
together, and a number just below the greatest float may be out of range.
-/
import NewsFeed.Json.Basic

namespace NewsFeed.Json

/-- The parts of a number without its sign. -/
structure Numeral where
  /-- The digits before the point. -/
  whole : List UInt8
  /-- The digits after the point. -/
  fraction : List UInt8
  exponent : Option Int

namespace Numeral

/-- The value of a digit. -/
def digitValue (digit : UInt8) : Nat :=
  digit.toNat - '0'.toNat

/-- The value of a list of digits. -/
def digitsValue (digits : List UInt8) : Nat :=
  digits.foldl (fun n digit => 10 * n + digitValue digit) 0

/-- Takes digits into a word: the word, and the digits from the first one on that does not fit. -/
def takeDigits : (word : Nat) → (digits : List UInt8) → Nat × List UInt8
  | word, [] => (word, [])
  | word, digit :: rest =>
    let longer := 10 * word + digitValue digit
    if longer < 18446744073709551616 then takeDigits longer rest else (word, digit :: rest)

/-- A whole number as it is stored. -/
def wholeNumber (negative : Bool) (word : Nat) : Number :=
  if negative then
    if word = 0 then .real (-0.0)
    else if word ≤ 9223372036854775808 then .negative (Int64.ofInt (-(word : Int)))
    else .real (-(UInt64.ofNat word).toFloat)
  else .natural (UInt64.ofNat word)

/-- The greatest power of ten in the table of powers. -/
def greatestPower : Nat := 308

/-- The float nearest to a power of ten. -/
def powerOfTen (places : Nat) : Float :=
  Float.ofScientific 1 false places

/-- Divides by the greatest power of ten as often as `times` says, unless nothing is left to divide,
and then by a smaller one. -/
def shrink (x : Float) (places : Nat) : (times : Nat) → Float
  | 0 => x / powerOfTen places
  | times + 1 => if x == 0.0 then x else shrink (x / powerOfTen greatestPower) places times

/-- Multiplies by a power of ten; none if that is out of range. -/
def scaled? (x : Float) : (exponent : Int) → Option Float
  | .ofNat places =>
    if places ≤ greatestPower then
      let product := x * powerOfTen places
      if product.isInf then none else some product
    else if x == 0.0 then some x else none
  | .negSucc places =>
    -- the exponent is `-(places + 1)`, of which at least one place is left for the last division
    some (shrink x (places % greatestPower + 1) (places / greatestPower))

/-- The number that a numeral stands for; none if it is out of range. -/
def value? (numeral : Numeral) (negative : Bool) : Option Number :=
  let (word, left) := takeDigits 0 numeral.whole
  if numeral.fraction.isEmpty ∧ numeral.exponent.isNone ∧ left.isEmpty then
    some (wholeNumber negative word)
  else
    let (word, ignored) := takeDigits word numeral.fraction
    let places := numeral.fraction.length - ignored.length
    let exponent := numeral.exponent.getD 0 + left.length - places
    (scaled? (UInt64.ofNat word).toFloat exponent).map fun size =>
      .real (if negative then -size else size)

end Numeral

end NewsFeed.Json
