/-
Helpers on binary64 numbers that the feed's arithmetic needs beyond `+ - * /`.

* `larger`, `smaller` — the maximum and minimum in which a NaN gives way to the other operand;
* `nearestWord` — the nearest 64-bit natural number, a half going up, clamped at both ends;
* `below` — the next smaller number;
* `fraction52`, `fraction53`, `openFraction` — the evenly spaced numbers read off the top bits of a
  random word.

All of them go through `Float`'s own operations and its bit pattern, so they compute the same
values in the logic and when run.
-/
namespace NewsFeed.Binary64

/-- The maximum that ignores a NaN. Of two equal operands the first is kept, which matters for the
sign of zero. -/
def larger (x y : Float) : Float :=
  if x.isNaN then y else if x < y then y else x

/-- The minimum that ignores a NaN. Of two equal operands the first is kept. -/
def smaller (x y : Float) : Float :=
  if x.isNaN then y else if y < x then y else x

/-- The largest 64-bit natural number. -/
def topWord : UInt64 := 0xffffffffffffffff

/-- The natural number nearest to `x`, a half going up. Negative numbers and NaN give 0, numbers
beyond the range give `topWord`. -/
def nearestWord (x : Float) : UInt64 :=
  let whole := x.toUInt64
  if 0.5 ≤ x - whole.toFloat ∧ whole < topWord then whole + 1 else whole

/-- The float just below a positive one. -/
def below (x : Float) : Float :=
  Float.ofBits (x.toBits - 1)

/-- The number in `[1, 2)` whose fraction is the top 52 bits of `word`. -/
def oneToTwo (word : UInt64) : Float :=
  Float.ofBits ((0x3ff0000000000000 : UInt64) ||| (word >>> 12))

/-- The number in `[2, 4)` whose fraction is the top 52 bits of `word`. -/
def twoToFour (word : UInt64) : Float :=
  Float.ofBits ((0x4000000000000000 : UInt64) ||| (word >>> 12))

/-- The multiple of `2^-52` in `[0, 1)` given by the top 52 bits of `word`. -/
def fraction52 (word : UInt64) : Float :=
  oneToTwo word - 1.0

/-- The multiple of `2^-53` in `[0, 1)` given by the top 53 bits of `word`. -/
def fraction53 (word : UInt64) : Float :=
  (word >>> 11).toFloat * Float.ofBits 0x3ca0000000000000

/-- A number strictly between 0 and 1 given by the top 52 bits of `word`: `fraction52` moved up by
half a step. -/
def openFraction (word : UInt64) : Float :=
  oneToTwo word - Float.ofBits 0x3fefffffffffffff

end NewsFeed.Binary64
