/-
Points in time, to the nanosecond and with leap seconds.

An instant is a day, a second of that day and a number of nanoseconds. A leap second shares its
number with the second before it and has a nanosecond count of `10^9` or more; the type says that
it ends a minute. The days cover the years -262143 to 262142.

* `hoursBefore?` — a whole number of hours earlier, or nothing outside of the range;
* `hoursSince` — the whole hours between two instants, rounded towards zero.
-/
import NewsFeed.Time.Calendar

namespace NewsFeed.Time

/-- The first day: 1 January of the year -262143. -/
def firstDay : Int := -96465292

/-- The last day: 31 December of the year 262142. -/
def lastDay : Int := 95026236

/-- A point in time in UTC. -/
structure Instant where
  /-- The day, counted from 1 January 1970. -/
  day : Int
  /-- The second of the day. -/
  second : Nat
  /-- The nanosecond, counted on through a leap second. -/
  nano : Nat
  day_range : firstDay ≤ day ∧ day ≤ lastDay
  second_lt : second < 86400
  nano_lt : nano < 2000000000
  /-- A leap second follows the last second of a minute. -/
  leap_ends_minute : 1000000000 ≤ nano → second % 60 = 59
  deriving DecidableEq, Repr

namespace Instant

/-- The instant with these parts, if it is in the range. -/
def of? (day : Int) (second nano : Nat) : Option Instant :=
  if h : (firstDay ≤ day ∧ day ≤ lastDay) ∧ second < 86400 ∧ nano < 2000000000 ∧
      (1000000000 ≤ nano → second % 60 = 59) then
    some ⟨day, second, nano, h.1, h.2.1, h.2.2.1, h.2.2.2⟩
  else none

/-- The instant that lies so many nanoseconds after the start of 1970, leap seconds not counted. -/
def ofNanos? (nanos : Int) : Option Instant :=
  let seconds := nanos / 1000000000
  of? (seconds / 86400) (seconds % 86400).toNat (nanos % 1000000000).toNat

/-- Whether the instant lies in a leap second. -/
def isLeap (t : Instant) : Bool :=
  1000000000 ≤ t.nano

/-- Instants in the order of time. -/
def Before (s t : Instant) : Prop :=
  s.day < t.day ∨ s.day = t.day ∧ (s.second < t.second ∨ s.second = t.second ∧ s.nano < t.nano)

instance (s t : Instant) : Decidable (s.Before t) := by
  unfold Before
  infer_instance

/-- The most milliseconds a span of time may have, either way. -/
def maxSpanMillis : Int := 9223372036854775807

/-- The instant `hours` earlier (later if negative). There is none if the span of time is too long
or the result outside of the range. A leap second is left as soon as the span is not zero. -/
def hoursBefore? (t : Instant) (hours : Int) : Option Instant :=
  let seconds := hours * 3600
  if maxSpanMillis < (seconds * 1000).natAbs then none
  else if seconds = 0 then some t
  else
    let start : Int := if t.isLeap ∧ 0 < seconds then t.second + 1 else t.second
    let nano := if t.isLeap then t.nano - 1000000000 else t.nano
    let total := start - seconds
    of? (t.day + total / 86400) (total % 86400).toNat nano

/-- The nanoseconds from `s` to `t`. A leap second counts where the times of day are apart. -/
def nanosSince (t s : Instant) : Int :=
  let days := t.day - s.day
  let seconds : Int := (t.second : Int) - s.second
  let leap : Int :=
    if s.second < t.second ∧ s.isLeap then 1
    else if t.second < s.second ∧ t.isLeap then -1
    else 0
  (days * 86400 + seconds + leap) * 1000000000 + ((t.nano : Int) - s.nano)

/-- The whole hours from `s` to `t`, negative if `t` is earlier. Seconds and then hours are rounded
towards zero. -/
def hoursSince (t s : Instant) : Int :=
  ((t.nanosSince s).tdiv 1000000000).tdiv 3600

end Instant

end NewsFeed.Time
