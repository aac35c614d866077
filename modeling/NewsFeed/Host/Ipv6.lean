/-
IPv6 addresses: eight pieces of 16 bits in hexadecimal digits, with a colon between two pieces.

Two colons in a row stand for as many zero pieces as are missing, at least one. The last two pieces
may be written like an IPv4 address, in decimal digits without extra zeros. When an address is
written, the longest run of two or more zero pieces, the first of the longest, becomes two colons.
-/
import NewsFeed.Text.Basic

namespace NewsFeed.Host

/-- An IPv6 address. -/
structure Ipv6 where
  pieces : List Nat
  size : pieces.length = 8
  deriving DecidableEq, Repr

namespace Ipv6

/-- A piece: one to four hexadecimal digits. -/
def piece? (text : List Char) : Option Nat :=
  if text.isEmpty ∨ 4 < text.length then none else Text.hexValue? text

/-- A byte in decimal digits without extra zeros. -/
def byte? (text : List Char) : Option Nat :=
  if text.isEmpty ∨ !text.all Char.isDigit ∨ (text.head? = some '0' ∧ text ≠ ['0']) ∨
      3 < text.length then none
  else
    let value := text.foldl (fun n c => 10 * n + (c.toNat - '0'.toNat)) 0
    if 255 < value then none else some value

/-- Two pieces written like an IPv4 address. -/
def fourBytes? (text : List Char) : Option (List Nat) := do
  match ← (Text.split (· = '.') text).mapM byte? with
  | [a, b, c, d] => return [a * 256 + b, c * 256 + d]
  | _ => none

/-- Pieces with colons between them, the last two possibly as an IPv4 address. -/
def piecesToEnd? : List (List Char) → Option (List Nat)
  | [] => some []
  | [last] => ((piece? last).map ([·])).or (fourBytes? last)
  | text :: rest => do return (← piece? text) :: (← piecesToEnd? rest)

/-- What stands before and after the first two colons in a row. -/
def cut? : List Char → Option (List Char × List Char)
  | ':' :: ':' :: rest => some ([], rest)
  | [] => none
  | c :: rest => (cut? rest).map fun (before, after) => (c :: before, after)

/-- The pieces of a text; no text is no pieces. -/
def side? (read : List (List Char) → Option (List Nat)) (text : List Char) : Option (List Nat) :=
  if text.isEmpty then some [] else read (Text.split (· = ':') text)

/-- Reads an address. -/
def read? (text : List Char) : Option Ipv6 := do
  let pieces ← match cut? text with
    | none => piecesToEnd? (Text.split (· = ':') text)
    | some (before, after) => do
      let before ← side? (·.mapM piece?) before
      let after ← side? piecesToEnd? after
      let missing := 8 - (before.length + after.length)
      if missing = 0 then none else some (before ++ List.replicate missing 0 ++ after)
  if h : pieces.length = 8 then some ⟨pieces, h⟩ else none

/-- The length of the run of zeros at the start. -/
def zerosAt (pieces : List Nat) : Nat :=
  (pieces.takeWhile (· = 0)).length

/-- The place and length of the longest run of zeros, the first of the longest. -/
def longestZeros (pieces : List Nat) : Nat × Nat :=
  (List.range pieces.length).foldl (fun best start =>
    let length := zerosAt (pieces.drop start)
    if best.2 < length then (start, length) else best) (0, 0)

/-- Pieces with colons between them. -/
def writePieces (pieces : List Nat) : String :=
  ":".intercalate (pieces.map Text.hex)

/-- Writes an address. -/
def write (address : Ipv6) : String :=
  let (start, length) := longestZeros address.pieces
  if length < 2 then writePieces address.pieces
  else
    writePieces (address.pieces.take start) ++ "::" ++
      writePieces (address.pieces.drop (start + length))

end Ipv6

end NewsFeed.Host
