/-
Weighted picks.

A `Lottery` is a list of weights that has passed the checks: there is at least one, none is
negative or not finite, and their sum taken from the left is finite and not zero. One word names a
point in `[0, total)`, and the winner is the first candidate whose running sum lies beyond it, so
candidate `i` wins on the points from the sum before it up to its own.

`pickIndex` draws a winner's place and `pick` takes the winner out of a list. A list of weights
that fails the checks is reported without reading a word.
-/
import NewsFeed.Binary64
import NewsFeed.Draw.Tape

namespace NewsFeed

open Binary64

/-- Why no candidate can be picked. -/
inductive PickError where
  /-- There are no candidates. -/
  | noCandidates
  /-- Every weight is zero. -/
  | zeroTotal
  /-- A weight is negative or not finite, or the sum of the weights is not finite. -/
  | badWeight (weight : Float)
  deriving DecidableEq, Repr

/-- The sums of the nonempty beginnings of a list of weights, each one added to the sum before. -/
def runningSums : List Float → List Float
  | [] => []
  | first :: rest => go first rest
where
  /-- The running sums of a list that starts with `sum` and goes on with the given weights. -/
  go (sum : Float) : List Float → List Float
    | [] => [sum]
    | weight :: rest => sum :: go (sum + weight) rest

/-- Weights that can be drawn from. -/
structure Lottery where
  /-- The running sums of all weights but the last. -/
  bounds : List Float
  /-- The sum of all weights. -/
  total : Float
  deriving DecidableEq, Repr

namespace Lottery

/-- Whether a single weight may take part. -/
def admits (weight : Float) : Bool :=
  weight.isFinite && decide (0.0 ≤ weight)

/-- Checks the weights and adds them up. -/
def ofWeights (weights : List Float) : Except PickError Lottery :=
  match weights with
  | [] => .error .noCandidates
  | first :: rest =>
    match weights.find? (fun weight => !admits weight) with
    | some weight => .error (.badWeight weight)
    | none =>
      let total := rest.foldl (· + ·) first
      if !total.isFinite then .error (.badWeight total)
      else if total == 0.0 then .error .zeroTotal
      else .ok ⟨(runningSums weights).dropLast, total⟩

/-- The factor that takes `[0, 1 - 2^-52]` into `[0, total)`. It is the total, or the float below
it where the largest fraction would be rounded up to the total, as happens for some subnormal
totals. -/
def scale (lottery : Lottery) : Float :=
  if lottery.total ≤ lottery.total * Float.ofBits 0x3feffffffffffffe then below lottery.total
  else lottery.total

/-- The point of `[0, total)` that a word names. -/
def point (lottery : Lottery) (word : UInt64) : Float :=
  fraction52 word * lottery.scale

/-- The place of the winner for a word: how many running sums lie at or below its point. -/
def winner (lottery : Lottery) (word : UInt64) : Nat :=
  (lottery.bounds.takeWhile (fun bound => decide (bound ≤ lottery.point word))).length

end Lottery

namespace Draw

/-- Draws the place of one of the weights, each in proportion to its size. -/
def pickIndex (weights : List Float) : Draw (Except PickError Nat) := do
  match Lottery.ofWeights weights with
  | .error cause => return .error cause
  | .ok lottery => return .ok (lottery.winner (← word))

/-- Draws one of the items by weight and takes it out: the item and the others in their order. -/
def pick {α : Type} (items : List α) (weight : α → Float) :
    Draw (Except PickError (α × List α)) := do
  match ← pickIndex (items.map weight) with
  | .error cause => return .error cause
  | .ok index =>
    match items[index]? with
    | some item => return .ok (item, items.eraseIdx index)
    | none => return .error .noCandidates

end Draw

end NewsFeed
