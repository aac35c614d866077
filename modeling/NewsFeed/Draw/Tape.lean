/-
The source of chance: a tape of 64-bit words, read from the front.

A tape is a pure function from positions to words together with the number of words already read,
so every computation that draws is a function of the tape and the same tape always gives the same
feed. `Draw α` is such a computation.

The only computations that may read without end are rejection loops. A tape carries how many
rejections in a row it puts up with (`patience`), and a loop that runs out of it gives `none`
rather than a made-up value (`Draw.settle`). Every statement about a draw that succeeds therefore
holds for whatever patience the tape has.

The simplest draw is the toss of a biased coin. The probability is turned into a threshold on
64-bit words, so a toss compares one word with it; a coin that always falls the same way reads no
word.
-/
namespace NewsFeed

/-- An endless tape of 64-bit words. -/
structure Tape where
  /-- The word at each position. -/
  word : Nat → UInt64
  /-- How many words have been read. -/
  used : Nat := 0
  /-- How many rejections in a row a loop may meet before it gives up. -/
  patience : Nat := 65536

/-- A computation that reads words from a tape. It gives `none` only when a rejection loop runs out
of patience. -/
abbrev Draw (α : Type) := StateT Tape Option α

namespace Draw

/-- Reads the next word. -/
def word : Draw UInt64 := fun tape =>
  some (tape.word tape.used, { tape with used := tape.used + 1 })

/-- Repeats `attempt` until it accepts a value, at most `tries` times. -/
def settleWithin {α : Type} (attempt : Draw (Option α)) : (tries : Nat) → Draw α
  | 0 => fun _ => none
  | tries + 1 => do
    match ← attempt with
    | some value => pure value
    | none => settleWithin attempt tries

/-- Repeats `attempt` until it accepts a value, for as long as the tape's patience lasts. -/
def settle {α : Type} (attempt : Draw (Option α)) : Draw α := do
  settleWithin attempt (← get).patience

/-! ### Coins -/

/-- How many of the `2^64` words count as heads for a probability in `(0, 1)`. -/
def coinThreshold (p : Float) : UInt64 :=
  (p * 18446744073709551616.0).toUInt64

/-- Tosses a coin that shows heads with probability `p`. A probability that is NaN or at most 0
gives tails and one that is at least 1 gives heads, both without reading a word. -/
def coin (p : Float) : Draw Bool := do
  if p.isNaN ∨ p ≤ 0.0 then return false
  if 1.0 ≤ p then return true
  return (← word) < coinThreshold p

end Draw

end NewsFeed
