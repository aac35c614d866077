/-
Draws from the standard normal distribution, by strips.

One word picks a strip of the bell curve (`Bell`) and a point in it. A point inside the next
narrower strip's width is under the curve for certain and is taken at once; a point of the lowest
strip beyond its rectangle is drawn anew from the tail; any other point is tested against the
density with a second word and rejected if it lies above. Rejections are repeated by `Draw.settle`.

`Float.exp` and `Float.log` are the only operations here that the logic does not define.
-/
import NewsFeed.Binary64
import NewsFeed.Draw.Bell
import NewsFeed.Draw.Tape

namespace NewsFeed.Draw

open Binary64 Bell

/-- The normal density at `x`, up to its constant factor. -/
def density (x : Float) : Float :=
  (-x * x / 2.0).exp

/-- Tries one point of the tail: how far beyond `tailStart` it lies, as a number that is not
positive. -/
def tailAttempt : Draw (Option Float) := do
  let x := (openFraction (← word)).log / tailStart
  let y := (openFraction (← word)).log
  return if -2.0 * y < x * x then none else some x

/-- Tries one point of the strips. -/
def normalAttempt : Draw (Option Float) := do
  -- the strip and the point come from different ends of one word
  let bits ← word
  let strip := (bits &&& 0xff).toNat
  let u := twoToFour bits - 3.0
  let x := u * edge strip
  -- most points end here
  if x.abs < edge (strip + 1) then
    return some x
  else if strip = 0 then
    let beyond ← settle tailAttempt
    return some (if u < 0.0 then beyond - tailStart else tailStart - beyond)
  else
    let level := fraction53 (← word)
    let low := height (strip + 1)
    return if low + (height strip - low) * level < density x then some x else none

/-- A draw from the standard normal distribution. -/
def normal : Draw Float :=
  settle normalAttempt

end NewsFeed.Draw
