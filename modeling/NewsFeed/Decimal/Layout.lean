/-
How floats are written: where the point goes and when a power of ten is split off.

Two layouts share the shortest digits. Messages write numbers positionally whatever their size;
documents split off the power of ten outside of `1e-5 ≤ |x| < 1e16` and always show a fraction or an
exponent, so that a reader sees a float.
-/
import NewsFeed.Decimal.Shortest

namespace NewsFeed.Decimal

/-- The choices a layout makes. -/
structure Layout where
  /-- The powers of ten of the first digit that are written positionally; `none` for all of them. -/
  positional : Option (Int × Int)
  /-- Whether a whole number ends in `.0`. -/
  pointZero : Bool
  /-- Which of two equally near decimals is written. -/
  tie : Tie

/-- Messages: always positional, whole numbers without a point. -/
def Layout.message : Layout := ⟨none, false, .up⟩

/-- Documents: positional from `1e-5` up to `1e15`, whole numbers with `.0`. -/
def Layout.document : Layout := ⟨some (-5, 15), true, .even⟩

/-- `n` zeros. -/
def zeros (n : Nat) : String :=
  "".pushn '0' n

/-- A positive decimal without an exponent. -/
def Scaled.positional (d : Scaled) (pointZero : Bool) : String :=
  let digits := toString d.digits
  if 0 ≤ d.exponent then
    digits ++ zeros d.exponent.toNat ++ if pointZero then ".0" else ""
  else
    let places := (-d.exponent).toNat
    let padded := zeros (places + 1 - digits.length) ++ digits
    let whole := padded.length - places
    (padded.take whole).toString ++ "." ++ (padded.drop whole).toString

/-- A positive decimal with one digit before the point and a power of ten. -/
def Scaled.scientific (d : Scaled) : String :=
  let digits := toString d.digits
  let power := d.exponent + (digits.length : Int) - 1
  let fraction := if digits.length = 1 then "" else "." ++ (digits.drop 1).toString
  let sign := if power < 0 then "-" else "+"
  (digits.take 1).toString ++ fraction ++ "e" ++ sign ++ toString power.natAbs

/-- Drops zeros at the end of the digits. -/
def Scaled.trimmed (d : Scaled) : Scaled :=
  if h : d.digits ≠ 0 ∧ d.digits % 10 = 0 then
    Scaled.trimmed ⟨d.digits / 10, d.exponent + 1⟩
  else d
termination_by d.digits
decreasing_by omega

/-- A positive decimal in a layout. -/
def Layout.writePositive (layout : Layout) (d : Scaled) : String :=
  let power := d.exponent + (length d.digits : Int) - 1
  match layout.positional with
  | none => d.positional layout.pointZero
  | some (least, greatest) =>
    if least ≤ power ∧ power ≤ greatest then d.positional layout.pointZero else d.scientific

/-- A float in a layout. -/
def Layout.write (layout : Layout) (x : Float) : String :=
  if x.isNaN then "NaN"
  else
    let sign := if x.toBits >>> 63 = 1 then "-" else ""
    if x.isInf then sign ++ "inf"
    else if x == 0.0 then sign ++ if layout.pointZero then "0.0" else "0"
    else sign ++ layout.writePositive (shortest layout.tie x).trimmed

end NewsFeed.Decimal
