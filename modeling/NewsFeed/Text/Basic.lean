/-
Characters and texts: their encoding, blanks, hexadecimal digits, cutting texts into pieces, and
percent-encoding.
-/
namespace NewsFeed.Text

/-- The text that bytes encode; none if they are not UTF-8. -/
def ofBytes? (bytes : List UInt8) : Option String :=
  String.fromUTF8? ⟨bytes.toArray⟩

/-! ### Blanks -/

/-- Whether a character is blank: it has the Unicode property White_Space, which is closed, so that
the table is complete. -/
def isBlank (c : Char) : Bool :=
  let n := c.toNat
  (9 ≤ n && n ≤ 13) || n = 0x20 || n = 0x85 || n = 0xa0 || n = 0x1680 ||
    (0x2000 ≤ n && n ≤ 0x200a) || n = 0x2028 || n = 0x2029 || n = 0x202f || n = 0x205f || n = 0x3000

/-- Leaves out the blanks at the start. -/
def trimStart (chars : List Char) : List Char :=
  chars.dropWhile isBlank

/-! ### Hexadecimal digits -/

/-- The lower-case hexadecimal digits of a number. -/
def hex (n : Nat) : String :=
  String.ofList (Nat.toDigits 16 n)

/-- The value of a hexadecimal digit. -/
def hexDigit? (c : Char) : Option Nat :=
  if '0' ≤ c ∧ c ≤ '9' then some (c.toNat - '0'.toNat)
  else if 'a' ≤ c ∧ c ≤ 'f' then some (c.toNat - 'a'.toNat + 10)
  else if 'A' ≤ c ∧ c ≤ 'F' then some (c.toNat - 'A'.toNat + 10)
  else none

/-- The value of a list of hexadecimal digits; none if another character is among them. -/
def hexValue? (digits : List Char) : Option Nat :=
  digits.foldlM (fun sum c => (hexDigit? c).map (16 * sum + ·)) 0

/-! ### Pieces -/

/-- The pieces of a text between the items that separate them, its characters as a rule. There is
always one piece. -/
def split {α : Type} (separates : α → Bool) (text : List α) : List (List α) :=
  text.foldr (fun c pieces =>
    if separates c then [] :: pieces
    else match pieces with
      | piece :: pieces => (c :: piece) :: pieces
      | [] => [[c]]) [[]]

/-- What stands before the last `separator` and what stands after it. -/
def cutAtLast? (separator : Char) : List Char → Option (List Char × List Char)
  | [] => none
  | c :: rest =>
    match cutAtLast? separator rest with
    | some (before, after) => some (c :: before, after)
    | none => if c = separator then some ([], rest) else none

/-! ### Percent-encoding -/

namespace Percent

/-- Replaces percent signs with two digits by the byte that they stand for. Other percent signs
stay. -/
def decodeBytes : List UInt8 → List UInt8
  | [] => []
  | b :: rest =>
    if b = '%'.toUInt8 then
      match rest with
      | high :: low :: others =>
        match hexValue? [Char.ofNat high.toNat, Char.ofNat low.toNat] with
        | some value => UInt8.ofNat value :: decodeBytes others
        | none => b :: decodeBytes (high :: low :: others)
      | others => b :: others
    else b :: decodeBytes rest

/-- The text that a text with percent signs stands for; none if it is not UTF-8. -/
def decode? (text : List Char) : Option (List Char) :=
  if text.contains '%' then
    (ofBytes? (decodeBytes (String.ofList text).toUTF8.toList)).map String.toList
  else some text

/-- A byte as a percent sign and two digits. -/
def encodeByte (b : UInt8) : List Char :=
  let digits := (hex b.toNat).toList.map Char.toUpper
  '%' :: (if digits.length < 2 then '0' :: digits else digits)

/-- Replaces control characters and everything beyond ASCII by percent signs with digits. -/
def encodeControls (text : List Char) : List Char :=
  text.flatMap fun c =>
    if c.toNat < 0x20 ∨ 0x7e < c.toNat then (String.utf8EncodeChar c).flatMap encodeByte else [c]

end Percent

end NewsFeed.Text
