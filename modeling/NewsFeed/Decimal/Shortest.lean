/-
The fewest decimal digits that read back as the same binary64 number.

A finite positive float is `m * 2^q` and stands for every real number that rounds to it: an interval
around its value, with its ends if `m` is even. For 1, 2, … digits in turn the two neighbours of
the value on that decimal grid are tried; the first grid with a neighbour in the interval wins, and
of two such neighbours the nearer one. If both are equally near, a `Tie` decides. Everything is
compared exactly, as natural numbers over a common denominator. Seventeen digits are always enough.
-/
namespace NewsFeed.Decimal

/-- A positive decimal number `digits * 10^exponent`. -/
structure Scaled where
  digits : Nat
  exponent : Int
  deriving DecidableEq, Repr

/-- Which of two equally near neighbours is taken. -/
inductive Tie where
  /-- The one with an even last digit. -/
  | even
  /-- The upper one. -/
  | up
  deriving DecidableEq, Repr

/-- The neighbour taken, given the lower one. -/
def Tie.choose (tie : Tie) (floor : Nat) : Nat :=
  match tie with
  | .even => if floor % 2 = 0 then floor else floor + 1
  | .up => floor + 1

/-- How many decimal digits a natural number has; 0 has none. -/
def length (n : Nat) : Nat :=
  if h : n = 0 then 0 else length (n / 10) + 1
decreasing_by omega

/-- A power of two. -/
def twoTo (n : Nat) : Nat :=
  Nat.pow 2 n

/-- A power of ten. -/
def tenTo (n : Nat) : Nat :=
  Nat.pow 10 n

/-- A finite float without its sign, as `significand * 2^exponent`. -/
structure Binary where
  significand : Nat
  exponent : Int
  /-- Whether the next smaller float is only half as far away as the next larger one. -/
  narrowBelow : Bool
  deriving DecidableEq, Repr

/-- Takes a finite float apart, leaving out its sign. -/
def Binary.ofFloat (x : Float) : Binary :=
  let bits := x.toBits.toNat
  let fraction : Nat := bits % twoTo 52
  let power : Nat := bits / twoTo 52 % twoTo 11
  -- subnormal numbers have no leading one
  if power = 0 then ⟨fraction, -1074, false⟩
  else ⟨twoTo 52 + fraction, (power : Int) - 1075, fraction = 0 && power ≠ 1⟩

/-- A positive rational number and the interval of numbers that round to it, over one
denominator. -/
structure Interval where
  low : Nat
  value : Nat
  high : Nat
  denominator : Nat
  /-- Whether the ends belong to the interval. -/
  closed : Bool
  deriving Repr

/-- The interval of a positive float. -/
def Binary.interval (x : Binary) : Interval :=
  -- A quarter of the distance to the next larger float is the unit.
  let up : Nat := twoTo x.exponent.toNat
  let down : Nat := twoTo (-x.exponent).toNat
  { low := (4 * x.significand - if x.narrowBelow then 1 else 2) * up
    value := 4 * x.significand * up
    high := (4 * x.significand + 2) * up
    denominator := 4 * down
    closed := x.significand % 2 = 0 }

/-- The power of ten of the first digit: the greatest `e` with `10^e ≤ value`. -/
def Interval.leading (i : Interval) : Int :=
  if i.denominator ≤ i.value then (length (i.value / i.denominator) : Int) - 1
  else -(length ((i.denominator + i.value - 1) / i.value - 1) : Int)

/-- Whether `digits * 10^exponent` rounds to the float. -/
def Interval.holds (i : Interval) (digits : Nat) (exponent : Int) : Bool :=
  let candidate := digits * tenTo exponent.toNat * i.denominator
  let unit := tenTo (-exponent).toNat
  if i.closed then i.low * unit ≤ candidate && candidate ≤ i.high * unit
  else i.low * unit < candidate && candidate < i.high * unit

/-- The neighbour of the value on the grid `10^exponent` that rounds to the float, if there is one;
the nearer one if there are two. -/
def Interval.onGrid? (i : Interval) (tie : Tie) (exponent : Int) : Option Nat :=
  let step := tenTo exponent.toNat * i.denominator
  let value := i.value * tenTo (-exponent).toNat
  let floor := value / step
  let remainder := value % step
  match i.holds floor exponent, i.holds (floor + 1) exponent with
  | true, true =>
    -- both neighbours round to the float
    some <|
      if 2 * remainder < step then floor
      else if step < 2 * remainder then floor + 1
      else tie.choose floor
  | true, false => some floor
  | false, true => some (floor + 1)
  | false, false => none

/-- The first hit on the grids of `count`, `count + 1`, … digits, `tries` of them. -/
def Interval.search (i : Interval) (tie : Tie) (leading : Int) :
    (tries : Nat) → (count : Nat) → Scaled
  | 0, count =>
    let exponent := leading + 1 - (count : Int)
    ⟨i.value * tenTo (-exponent).toNat / (tenTo exponent.toNat * i.denominator), exponent⟩
  | tries + 1, count =>
    let exponent := leading + 1 - (count : Int)
    match i.onGrid? tie exponent with
    | some digits => ⟨digits, exponent⟩
    | none => i.search tie leading tries (count + 1)

/-- The shortest decimal of a finite float other than zero, leaving out its sign. -/
def shortest (tie : Tie) (x : Float) : Scaled :=
  let interval := (Binary.ofFloat x).interval
  interval.search tie interval.leading 17 1

end NewsFeed.Decimal
