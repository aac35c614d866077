/-
The ChaCha stream with 12 rounds, as a tape of 64-bit words.

The state is a square of four rows of four 32-bit words: the constants, two rows of key, and a row
that starts with the 64-bit block counter. A round works on the four columns at once; the diagonal
rounds are the same after turning the last three rows. A block is the scrambled square added to the
one it started from, and its sixteen words, row by row, taken in pairs with the low half first, are
eight words of the tape. `word key n` computes word `n` directly, so the tape needs no buffer.
-/
import NewsFeed.Draw.Tape

namespace NewsFeed.ChaCha

/-- Four 32-bit words, worked on side by side. -/
structure Row where
  a : UInt32
  b : UInt32
  c : UInt32
  d : UInt32
  deriving DecidableEq, Repr

namespace Row

/-- Applies `f` to each pair of words in the same place. -/
def zipWith (f : UInt32 → UInt32 → UInt32) (r s : Row) : Row :=
  ⟨f r.a s.a, f r.b s.b, f r.c s.c, f r.d s.d⟩

/-- Turns a word left by `n` bits, `0 < n < 32`. -/
def rotateWord (x : UInt32) (n : UInt32) : UInt32 :=
  (x <<< n) ||| (x >>> (32 - n))

/-- Turns every word left by `n` bits. -/
def rotateBits (r : Row) (n : UInt32) : Row :=
  ⟨rotateWord r.a n, rotateWord r.b n, rotateWord r.c n, rotateWord r.d n⟩

/-- Moves the words one place to the left, the first to the end. -/
def turn (r : Row) : Row := ⟨r.b, r.c, r.d, r.a⟩

end Row

/-- The square that a block is computed on. -/
structure Square where
  top : Row
  upper : Row
  lower : Row
  bottom : Row
  deriving DecidableEq, Repr

namespace Square

/-- The quarter round on all four columns. -/
def columns (s : Square) : Square :=
  let top := s.top.zipWith (· + ·) s.upper
  let bottom := (s.bottom.zipWith (· ^^^ ·) top).rotateBits 16
  let lower := s.lower.zipWith (· + ·) bottom
  let upper := (s.upper.zipWith (· ^^^ ·) lower).rotateBits 12
  let top := top.zipWith (· + ·) upper
  let bottom := (bottom.zipWith (· ^^^ ·) top).rotateBits 8
  let lower := lower.zipWith (· + ·) bottom
  let upper := (upper.zipWith (· ^^^ ·) lower).rotateBits 7
  ⟨top, upper, lower, bottom⟩

/-- Turns the last three rows so that the diagonals become columns. -/
def slant (s : Square) : Square :=
  ⟨s.top, s.upper.turn, s.lower.turn.turn, s.bottom.turn.turn.turn⟩

/-- Undoes `slant`. -/
def straighten (s : Square) : Square :=
  ⟨s.top, s.upper.turn.turn.turn, s.lower.turn.turn, s.bottom.turn⟩

/-- A column round and a diagonal round. -/
def doubleRound (s : Square) : Square :=
  s.columns.slant.columns.straighten

/-- Adds two squares word by word. -/
def add (s t : Square) : Square :=
  ⟨s.top.zipWith (· + ·) t.top, s.upper.zipWith (· + ·) t.upper,
    s.lower.zipWith (· + ·) t.lower, s.bottom.zipWith (· + ·) t.bottom⟩

/-- The twelve rounds and the final addition. -/
def scramble (s : Square) : Square :=
  (Nat.repeat doubleRound 6 s).add s

end Square

/-- The two key rows. -/
structure Key where
  upper : Row
  lower : Row
  deriving DecidableEq, Repr

/-- Block number `n` of the stream. -/
def block (key : Key) (n : Nat) : Square :=
  let counter := UInt64.ofNat n
  Square.scramble
    { top := ⟨0x61707865, 0x3320646e, 0x79622d32, 0x6b206574⟩
      upper := key.upper
      lower := key.lower
      bottom := ⟨counter.toUInt32, (counter >>> 32).toUInt32, 0, 0⟩ }

/-- Joins two 32-bit words, the low half first. -/
def join (low high : UInt32) : UInt64 :=
  (high.toUInt64 <<< 32) ||| low.toUInt64

/-- Word `n` of the stream. -/
def word (key : Key) (n : Nat) : UInt64 :=
  let square := block key (n / 8)
  match n % 8 with
  | 0 => join square.top.a square.top.b
  | 1 => join square.top.c square.top.d
  | 2 => join square.upper.a square.upper.b
  | 3 => join square.upper.c square.upper.d
  | 4 => join square.lower.a square.lower.b
  | 5 => join square.lower.c square.lower.d
  | 6 => join square.bottom.a square.bottom.b
  | _ => join square.bottom.c square.bottom.d

/-! ### Keys from a number -/

/-- The next value of the generator that stretches a seed into a key. -/
def advance (state : UInt64) : UInt64 :=
  state * 6364136223846793005 + 11634580027462260723

/-- The key word for one state of that generator: its high bits, folded and turned right by an
amount taken from its top. -/
def keyWord (state : UInt64) : UInt32 :=
  let folded := (((state >>> 18) ^^^ state) >>> 27).toUInt32
  let amount := (state >>> 59).toUInt32
  -- turned by nothing, the second part must not be shifted by 32
  (folded >>> amount) ||| (folded <<< ((32 - amount) % 32))

/-- The key whose words are drawn from the states that follow `seed`. -/
def Key.ofSeed (seed : UInt64) : Key :=
  let drawn (n : Nat) := keyWord (Nat.repeat advance n seed)
  ⟨⟨drawn 1, drawn 2, drawn 3, drawn 4⟩, ⟨drawn 5, drawn 6, drawn 7, drawn 8⟩⟩

end NewsFeed.ChaCha

namespace NewsFeed

/-- The tape that belongs to a seed. -/
def Tape.ofSeed (seed : UInt64) : Tape :=
  let key := ChaCha.Key.ofSeed seed
  { word := ChaCha.word key }

end NewsFeed
