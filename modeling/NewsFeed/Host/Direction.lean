/-
The direction in which characters are written, and what it demands of a domain.

Where text from left to right and from right to left meet, it can be hard to see which character
belongs to which part. So as soon as one character of a domain is written from right to left, every
label has to run one way (`runsOneWay`): it starts with a letter and keeps to the direction of that
letter, and it does not end in punctuation.
-/
import NewsFeed.Host.Mapping
import NewsFeed.Text.Mark

namespace NewsFeed.Host

/-- How a character is written. -/
inductive Direction where
  | leftToRight
  | rightToLeft
  /-- A digit of a number that follows letters of either direction. -/
  | digit
  /-- A digit of a number in Arabic text. -/
  | arabicDigit
  /-- Punctuation and symbols, which follow what is around them. -/
  | neutral
  /-- A mark, which follows its letter. -/
  | mark
  deriving DecidableEq, Repr

/-- The characters beyond ASCII that are not written from left to right: `r` stands for right to
left, `n` for digits, `a` for Arabic digits and `o` for neutral characters. Marks are left out;
those that count as letters, from left to right, have the sign `l`. -/
def directionTable : List String := [
  "a1-d7:o f7:o 2b9-2ba:o 2c2-2cf:o 2d2-2ed:o 2ef-2ff:o 375:o 3f6:o 58a-58f:o 5be:r 5c0:r 5c3:r",
  "5c6:r 5d0-5f4:r 606-607:o 608:r 609-60a:o 60b:r 60c:o 60d:r 60e-60f:o 61b-64a:r 660-669:a 66a:o",
  "66b-66c:a 66d-66f:r 671-6d5:r 6de:o 6e5-6e6:r 6e9:o 6ee-6ef:r 6f0-6f9:n 6fa-710:r 712-72f:r",
  "74d-7a5:r 7b1-7ea:r 7f4-7f5:r 7f6-7f9:o 7fa:r 7fe-815:r 81a:r 824:r 828:r 830-858:r 85e-88f:r",
  "8a0-8c9:r 9f2-9f3:o 9fb:o af1:o bf3-bfa:o c78-c7e:o cbf:l cc6:l e3f:o f3a-f3d:o 1390-1399:o",
  "1400:o 169b-169c:o 17db:o 17f0-180a:o 1940-1945:o 19de-19ff:o 200c-20c3:o 2104-214d:o",
  "218a-2335:o 237b-2394:o 2396-26ab:o 26ad-27ff:o 2900-2bff:o 2ce5-2cea:o 2cf9-2cff:o 2e00-3004:o",
  "3008-3020:o 3030:o 3037:o 303d-303f:o 30a0:o 30fb:o 31c0-31e5:o 4dc0-4dff:o a490-a4c6:o",
  "a60d-a60f:o a673:o a67e-a67f:o a700-a721:o a788:o a828-a82b:o a838-a839:o a874-a877:o",
  "ab6a-ab6b:o fbb2-fbc2:r fbc3-fdff:o fe45-fe46:o fe73:r 10101:o 10140-1018c:o 10190-101a0:o",
  "102e1-102fb:n 10800-1091b:r 1091f:o 10920-10a00:r 10a10-10a35:r 10a40-10ae4:r 10aeb-10b35:r",
  "10b39-10b3f:o 10b40-10d23:r 10d30-10d49:a 10d4a-10d4f:r 10d6e:o 10d6f-10d8f:r 10e60-10e7e:a",
  "10e80-10ea9:r 10ead-10ec7:r 10ed0-10ed8:o 10f00-10f45:r 10f51-10f81:r 10f86-10ff6:r",
  "11052-11065:o 11660-1166c:o 11a07-11a08:l 11c3f:l 11fd5-11ff1:o 16fe2:o 1cc00-1cef0:o",
  "1d1e9-1d241:o 1d245:o 1d300-1d356:o 1e2ff:o 1e800-1e8cf:r 1e922-1e943:r 1e94b-1ed3d:r",
  "1eef0-1f12f:o 1f16d-1f16f:o 1f1ad:o 1f260-1fbfa:o"]

namespace Direction

/-- The direction that a sign in the table stands for. -/
def ofSign : List Char → Direction
  | [':', 'r'] => .rightToLeft
  | [':', 'n'] => .digit
  | [':', 'a'] => .arabicDigit
  | [':', 'o'] => .neutral
  | _ => .leftToRight

/-- The rows of the table with their directions. -/
def rows : List (Text.Row × Direction) :=
  (Text.readTable directionTable).map fun row => (row, ofSign row.entry)

/-- The direction of a character. -/
def ofChar (c : Char) : Direction :=
  if isAscii c then
    if c.isDigit then .digit else if c.isAlpha then .leftToRight else .neutral
  else match rows.find? fun entry => entry.1.covers c with
    | some (_, direction) => direction
    | none => if Text.isNonspacing c then .mark else .leftToRight

/-- Whether a character of this direction makes a domain one that can be misread. -/
def isMixing (direction : Direction) : Bool :=
  direction = .rightToLeft || direction = .arabicDigit

/-- Whether a label may end with a character of this direction, marks behind it apart. -/
def canEnd : Direction → Bool
  | .leftToRight | .rightToLeft | .digit | .arabicDigit => true
  | .neutral | .mark => false

end Direction

/-- The last direction that is not that of a mark, if there is one. -/
def lastDirection? (directions : List Direction) : Option Direction :=
  (directions.filter (· ≠ .mark)).getLast?

/-- Whether the characters of a label are written one way. Only one kind of digits can stand in a
label from right to left. -/
def runsOneWay (label : List Char) : Bool :=
  match label.map Direction.ofChar with
  | [] => true
  | first :: rest =>
    let endsWell := (lastDirection? rest).all Direction.canEnd
    match first with
    | .leftToRight => endsWell && !rest.any Direction.isMixing
    | .rightToLeft =>
      endsWell && !rest.contains .leftToRight &&
        !(rest.contains .digit && rest.contains .arabicDigit)
    | _ => false

/-- Whether labels can stand in one domain without being misread. -/
def readOneWay (labels : List (List Char)) : Bool :=
  !labels.any (·.any fun c => (Direction.ofChar c).isMixing) || labels.all runsOneWay

end NewsFeed.Host
