/-
IPv4 addresses in the place of a domain.

A domain whose last label is a number is an address, or nothing. The numbers may be octal (after
`0`) or hexadecimal (after `0x`). There are one to four of them; the last one stands for all the
bytes that are left.
-/
import NewsFeed.Text.Basic

namespace NewsFeed.Host

/-- An IPv4 address. -/
structure Ipv4 where
  value : UInt32
  deriving DecidableEq, Repr

namespace Ipv4

/-- The value of digits in a base of at most 16; none if another character is among them. -/
def inBase (base : Nat) (digits : List Char) : Option Nat :=
  digits.foldlM (fun sum c =>
    match Text.hexDigit? c with
    | some digit => if digit < base then some (base * sum + digit) else none
    | none => none) 0

/-- The number that a label stands for. -/
def number? : List Char → Option Nat
  | [] => none
  | '0' :: 'x' :: digits => inBase 16 digits
  | '0' :: 'X' :: digits => inBase 16 digits
  | '0' :: digit :: digits => inBase 8 (digit :: digits)
  | digits => inBase 10 digits

/-- Whether a label is a number, or would be one if its digits were not too large. -/
def isNumber (label : List Char) : Bool :=
  (!label.isEmpty && label.all Char.isDigit) || (number? label).isSome

/-- The labels without an empty one at the end. -/
def withoutLastDot (labels : List (List Char)) : List (List Char) :=
  if labels.getLast? = some [] then labels.dropLast else labels

/-- Whether a domain ends in a number, as addresses do. -/
def endsInNumber (labels : List (List Char)) : Bool :=
  ((withoutLastDot labels).getLast?.map isNumber).getD false

/-- The address that labels stand for. -/
def ofLabels? (labels : List (List Char)) : Option Ipv4 := do
  let numbers ← (withoutLastDot labels).mapM number?
  let last ← numbers.getLast?
  -- all but the last number are single bytes
  let bytes := numbers.dropLast
  if 3 < bytes.length ∨ bytes.any (255 < ·) ∨ Nat.pow 256 (4 - bytes.length) ≤ last then none
  else
    let add (sum : Nat) (entry : Nat × Nat) := sum + entry.1 * Nat.pow 256 (3 - entry.2)
    return ⟨UInt32.ofNat (bytes.zipIdx.foldl add last)⟩

/-- The four bytes of an address in decimal digits. -/
def write (address : Ipv4) : String :=
  let byte (n : Nat) := toString (address.value.toNat / Nat.pow 256 n % 256)
  ".".intercalate [byte 3, byte 2, byte 1, byte 0]

end Ipv4

end NewsFeed.Host
