/-
Whole numbers as floats, and floats as words.

A natural number of at most 64 bits becomes the float nearest to it.  That is a natural number
again, and the same one up to `2^53`.  On the way back the part behind the point is cut off, and
what is too large becomes the greatest word.

* `toFloat_spec`, `ofNat_spec` — a natural number as a float;
* `toNat_toUInt64` — a float as a word;
* `nearestWord_bounds` — a float between two words is rounded to a word between them.
-/
import NewsFeed.Binary64
import NewsFeed.Proofs.Bits

namespace NewsFeed.Binary64

open Float.Model (Format UnpackedFloat)
open Float.Model.UnpackedFloat (Sign decreaseExponent shiftToExponent)

/-! ### The float nearest to a natural number -/

/-- A number of at most 64 bits stays in the range when it is rounded. -/
theorem abs_nearest_lt_limit {n : ℕ} (hn : n ≤ 2 ^ 64) : |nearest n| < limit := by
  have hgrid : nearest (2 ^ 64) = 2 ^ 64 := by
    have hone := nearest_of_grid (n := 1) (e := 64) (by norm_num) (by norm_num)
    simpa using hone
  have hle : nearest n ≤ 2 ^ 64 := (nearest_mono (by exact_mod_cast hn)).trans_eq hgrid
  rw [abs_of_nonneg (nearest_nonneg (Nat.cast_nonneg n)), limit]
  calc nearest n ≤ 2 ^ (64 : ℤ) := by exact_mod_cast hle
    _ < 2 ^ (1024 : ℤ) := zpow_lt_zpow_right₀ (by norm_num) (by norm_num)

/-- A number of at most 53 bits is not rounded. -/
theorem nearest_natCast_of_le {n : ℕ} (hn : n ≤ 2 ^ 53) : nearest n = n := by
  rcases hn.lt_or_eq with hlt | rfl
  · have hgrid := nearest_of_grid (n := n) (e := 0) (by rw [Nat.abs_cast]; omega) (by norm_num)
    rwa [zpow_zero, mul_one, Int.cast_natCast] at hgrid
  · have hgrid := nearest_of_grid (n := 1) (e := 53) (by norm_num) (by norm_num)
    rw [Int.cast_one, one_mul] at hgrid
    exact_mod_cast hgrid

/-- What a natural number is rounded to is one as well. -/
theorem exists_nearest_natCast (n : ℕ) : ∃ m : ℕ, nearest n = m := by
  rcases le_or_gt n (2 ^ 53) with hle | hlt
  · exact ⟨n, nearest_natCast_of_le hle⟩
  -- above `2^53` the spacing is a whole number itself
  have hlog : (53 : ℤ) ≤ Int.log 2 (n : ℝ) := by
    refine (Int.zpow_le_iff_le_log (b := 2) (by norm_num) (by positivity)).mp ?_
    exact_mod_cast hlt.le
  have hexponent : 0 ≤ spacingExponent (n : ℝ) := by
    rw [spacingExponent, Nat.abs_cast]
    omega
  obtain ⟨e, he⟩ := Int.eq_ofNat_of_zero_le hexponent
  have hspacing : spacing (n : ℝ) = (2 ^ e : ℕ) := by
    rw [spacing, he]
    push_cast
    rw [zpow_natCast]
  have hround : 0 ≤ roundEven ((n : ℝ) / spacing n) :=
    (Int.floor_nonneg.mpr (div_nonneg (Nat.cast_nonneg n) (spacing_pos _).le)).trans
      (floor_le_roundEven _)
  obtain ⟨k, hk⟩ := Int.eq_ofNat_of_zero_le hround
  refine ⟨k * 2 ^ e, ?_⟩
  rw [nearest, hk, hspacing]
  push_cast
  rfl

/-! ### Whole numbers as floats -/

theorem toFloat_spec (n : UInt64) :
    n.toFloat.isFinite = true ∧ number n.toFloat = (nearest n.toNat : ℝ) := by
  have hspec := normalize_spec n.toNat 0 .positive
  rw [zpow_zero, mul_one, Int.cast_natCast] at hspec
  exact hspec.isFinite_pack (abs_nearest_lt_limit n.toNat_lt.le)

/-- A number with a power of ten is rounded once. -/
theorem standsFor_ofScientific {m : ℕ} (hm : 0 < m) {e : ℕ} (he : e ≤ 2048) :
    StandsFor (UnpackedFloat.ofScientific Format.binary64 m e) (nearest (m * 10 ^ e : ℕ)) := by
  have hshift : 0 < m <<< 53 * 10 ^ e := by
    rw [Nat.shiftLeft_eq]
    positivity
  have hvalue : ((m <<< 53 * 10 ^ e : ℕ) : ℝ) * 2 ^ (-53 + 0 : ℤ) = (m * 10 ^ e : ℕ) := by
    have hone : ((2 ^ 53 : ℕ) : ℝ) * 2 ^ (-53 + 0 : ℤ) = 1 := by norm_num
    rw [Nat.shiftLeft_eq, mul_right_comm, Nat.cast_mul _ (2 ^ 53), mul_assoc, hone, mul_one]
  have hlog : 0 ≤ Int.log 2 ((m * 10 ^ e : ℕ) : ℝ) := by
    rw [Int.log_natCast]
    exact Int.natCast_nonneg _
  -- 53 digits are put behind the number, so that rounding has what it needs
  have hspacing : (-53 + 0 : ℤ) ≤
      spacingExponent (((m <<< 53 * 10 ^ e : ℕ) : ℝ) * 2 ^ (-53 + 0 : ℤ)) := by
    rw [hvalue, spacingExponent, Nat.abs_cast]
    omega
  have hspec := roundWithAccuracy_spec .positive hshift hspacing
  rw [Sign.apply, Int.cast_natCast, hvalue] at hspec
  have hbits : (2 : ℤ) ^ Format.binary64.exponentBits = 2048 := rfl
  -- the exponents that are cut short are those far out of range
  have hsmall : ¬ (e : ℤ) > 2 ^ Format.binary64.exponentBits := by
    rw [hbits]
    omega
  have hlarge : ¬ (e : ℤ) < -((2 ^ Format.binary64.exponentBits : ℤ) + (m.log2 : ℤ)) := by
    rw [hbits]
    omega
  rw [UnpackedFloat.ofScientific, dif_neg hm.ne', if_neg hsmall, if_neg hlarge,
    if_pos (Int.natCast_nonneg e)]
  exact hspec

theorem ofNat_spec {n : ℕ} (hn : n ≤ 2 ^ 64) :
    (Float.ofNat n).isFinite = true ∧ number (Float.ofNat n) = (nearest n : ℝ) := by
  show (Float.ofScientific n false 0).isFinite = true ∧
    number (Float.ofScientific n false 0) = (nearest n : ℝ)
  rw [Float.ofScientific]
  split
  case isTrue h =>
    -- below `2 ^ 53` the word is converted and multiplied by a power of ten, here 1
    have hone : Float.ofBits 0x3ff0000000000000 = 1.0 := by decide +kernel
    show (n.toUInt64.toFloat * Float.ofBits 0x3ff0000000000000).isFinite = true ∧
      number (n.toUInt64.toFloat * Float.ofBits 0x3ff0000000000000) = (nearest n : ℝ)
    have hword : n.toUInt64.toNat = n := Nat.mod_eq_of_lt (by omega)
    obtain ⟨hfinite, hnumber⟩ := toFloat_spec n.toUInt64
    obtain ⟨hnan, hmul⟩ := mul_spec hfinite (y := 1.0) (by decide +kernel)
    rw [number_one, mul_one, rounded_number, hnumber, hword] at hmul
    rw [hone]
    exact ⟨isFinite_of_number_eq hnan hmul, hmul⟩
  case isFalse h =>
    -- a greater number is rounded
    have hpos : 0 < n := by omega
    have hspec := standsFor_ofScientific hpos (Nat.zero_le 2048)
    rw [pow_zero, mul_one] at hspec
    exact hspec.isFinite_pack (abs_nearest_lt_limit hn)

theorem isFinite_neg {x : Float} (hx : x.isFinite = true) : (Float.neg x).isFinite = true := by
  obtain ⟨r, hr⟩ := exists_number_eq hx
  obtain ⟨hnearest, hlimit⟩ := nearest_eq_of_number hx hr
  have hneg : nearest (-r) = -r := by rw [nearest_neg, hnearest]
  have hspec : StandsFor x.toModel.unpack.neg (nearest (-r)) :=
    hneg.symm ▸ (standsFor_toModel hx hr).neg
  refine (hspec.isFinite_pack ?_).1
  rwa [hneg, abs_neg]

theorem isFinite_ofInt (n : Int64) : (Float.ofInt n.toInt).isFinite = true := by
  have hlow := n.le_toInt
  have hhigh := n.toInt_lt
  cases hn : n.toInt with
  | ofNat k =>
    rw [hn, Int.ofNat_eq_natCast] at hhigh
    exact (ofNat_spec (by omega)).1
  | negSucc k => exact isFinite_neg (ofNat_spec (by omega)).1

/-! ### Floats as words -/

/-- Cutting a positive number off behind the point. -/
theorem roundToInt_positive (m : ℕ) (e : ℤ) :
    UnpackedFloat.roundToInt .positive m e = ⌊(m : ℝ) * 2 ^ e⌋ := by
  obtain ⟨hvalue, hle, -⟩ := decreaseExponent_spec m e 0
  rw [UnpackedFloat.roundToInt]
  generalize decreaseExponent m e 0 = pair at *
  obtain ⟨m', e'⟩ := pair
  dsimp only at hvalue hle ⊢
  obtain ⟨k, rfl⟩ : ∃ k : ℕ, e' = -k := ⟨(-e').toNat, by omega⟩
  have hholds := (holds_exact m').shiftRight k
  have hshift : (0 - -(k : ℤ)).toNat = k := by omega
  rw [← hvalue, zpow_neg, zpow_natCast, ← div_eq_mul_inv, hholds.floor, shiftToExponent, hshift]
  rfl

/-- A float that is not negative as a word. -/
theorem toNat_toUInt64 {x : Float} {r : ℝ} (hfinite : x.isFinite = true) (hr : number x = r)
    (hnonneg : 0 ≤ r) : x.toUInt64.toNat = min ⌊r⌋₊ topWord.toNat := by
  have hclamp (n : ℕ) : (UInt64.ofNatClamp n).toNat = min n topWord.toNat := by
    have htop : topWord.toNat = UInt64.size - 1 := by rfl
    unfold UInt64.ofNatClamp
    split_ifs with hlt
    · rw [UInt64.toNat_ofNatLT]
      omega
    · rw [UInt64.toNat_ofNatLT]
      omega
  have hint : UnpackedFloat.toInt 0 (UInt64.size - 1) x.toModel.unpack = ⌊r⌋ := by
    have hcanonical := canonical_unpack_toModel x
    have hfinite' : x.toModel.unpack.isFinite = true := hfinite
    unfold number at hr
    -- only what the float was unpacked to is looked at
    generalize hu : x.toModel.unpack = u at *
    cases u with
    | notANumber => cases hfinite'
    | infinity sign => cases hfinite'
    | zero sign =>
      obtain rfl : 0 = r := EReal.coe_eq_coe_iff.mp hr
      exact Int.floor_zero.symm
    | finite sign m e hm =>
      obtain rfl : scaled (sign.apply m) e = r := EReal.coe_eq_coe_iff.mp hr
      cases sign with
      | positive =>
        rw [UnpackedFloat.toInt, roundToInt_positive]
        rfl
      | negative =>
        -- a negative number is excluded by `hnonneg`
        exfalso
        have hpos : 0 < scaled m e := scaled_pos (by exact_mod_cast hm) e
        rw [Sign.apply, Int.cast_neg, scaled_neg] at hnonneg
        push_cast at hnonneg
        linarith
  show (UInt64.ofNatClamp
    (UnpackedFloat.toInt 0 (UInt64.size - 1) x.toModel.unpack).toNat).toNat = _
  rw [hclamp, hint]
  rfl

/-- A natural number as a float and back as a word. -/
theorem toNat_toUInt64_toFloat (n : UInt64) :
    n.toFloat.toUInt64.toNat = min ⌊nearest n.toNat⌋₊ topWord.toNat := by
  obtain ⟨hfinite, hnumber⟩ := toFloat_spec n
  exact toNat_toUInt64 hfinite hnumber (nearest_nonneg (Nat.cast_nonneg _))

theorem toUInt64_toFloat_of_le {n : UInt64} (hn : n.toNat ≤ 2 ^ 53) : n.toFloat.toUInt64 = n := by
  have htop : topWord.toNat = 2 ^ 64 - 1 := by rfl
  rw [← UInt64.toNat_inj, toNat_toUInt64_toFloat, nearest_natCast_of_le hn, Nat.floor_natCast]
  omega

/-- A float that is rounded up does not reach the natural number above it. -/
theorem floor_lt_of_half_le {x : Float} {r : ℝ} {n : ℕ} (hfinite : x.isFinite = true)
    (hr : number x = r) (hnonneg : 0 ≤ r) (hle : r ≤ n) (htop : x.toUInt64 < topWord)
    (hhalf : 0.5 ≤ x - x.toUInt64.toFloat) : x.toUInt64.toNat < n := by
  have hwhole := toNat_toUInt64 hfinite hr hnonneg
  rw [UInt64.lt_iff_toNat_lt] at htop
  have hfloor : x.toUInt64.toNat = ⌊r⌋₊ := by omega
  by_contra hnot
  -- otherwise the float is that number, and nothing is left behind the point
  have hge : (n : ℝ) ≤ r := (Nat.le_floor_iff hnonneg).mp (by omega)
  have heq : (x.toUInt64.toNat : ℝ) = r := by
    rw [hfloor, hle.antisymm hge, Nat.floor_natCast]
  obtain ⟨hfinite', hnumber⟩ := toFloat_spec x.toUInt64
  rw [heq, (nearest_eq_of_number hfinite hr).1] at hnumber
  obtain ⟨-, hsub⟩ := sub_spec hfinite hfinite'
  rw [hr, hnumber, ← EReal.coe_sub, sub_self, EReal.coe_zero, rounded_zero] at hsub
  have hpos : (0.0 : Float) < 0.5 := by decide +kernel
  have hlt := (lt_iff.mp hpos).2.2.trans_le (le_iff.mp hhalf).2.2
  rw [hsub, number_zero] at hlt
  exact lt_irrefl _ hlt

/-- A float between two words is rounded to a word between them, as far as these are floats. -/
theorem nearestWord_bounds {x : Float} {least greatest : UInt64} (hleast : least.toFloat ≤ x)
    (hgreatest : x ≤ greatest.toFloat) :
    least.toFloat.toUInt64 ≤ nearestWord x ∧ nearestWord x ≤ greatest.toFloat.toUInt64 := by
  obtain ⟨hfinite, hnumber⟩ := toFloat_spec least
  obtain ⟨hfinite', hnumber'⟩ := toFloat_spec greatest
  have hnonneg : 0.0 ≤ least.toFloat := by
    rw [nonneg_iff, hnumber]
    exact ⟨isNaN_of_isFinite hfinite, EReal.coe_nonneg.mpr (nearest_nonneg (Nat.cast_nonneg _))⟩
  have hx : x.isFinite = true :=
    isFinite_of_le (Binary64.le_trans hnonneg hleast) hgreatest hfinite'
  obtain ⟨r, hr⟩ := exists_number_eq hx
  have hlow : nearest least.toNat ≤ r := by
    have hle := (le_iff.mp hleast).2.2
    rwa [hnumber, hr, EReal.coe_le_coe_iff] at hle
  have hhigh : r ≤ nearest greatest.toNat := by
    have hle := (le_iff.mp hgreatest).2.2
    rwa [hnumber', hr, EReal.coe_le_coe_iff] at hle
  have hpos : 0 ≤ r := (nearest_nonneg (Nat.cast_nonneg _)).trans hlow
  have hwhole := toNat_toUInt64 hx hr hpos
  -- casting is monotone, so the lower bound survives rounding down
  have hfloor : least.toFloat.toUInt64.toNat ≤ x.toUInt64.toNat := by
    rw [hwhole, toNat_toUInt64_toFloat]
    exact min_le_min_right _ (Nat.floor_le_floor hlow)
  rw [UInt64.le_iff_toNat_le, UInt64.le_iff_toNat_le, toNat_toUInt64_toFloat greatest]
  unfold nearestWord
  dsimp only
  split_ifs with hup
  · obtain ⟨hhalf, htop⟩ := hup
    obtain ⟨n, hn⟩ := exists_nearest_natCast greatest.toNat
    -- rounding up stays below the upper bound, which is a whole number
    have hlt := floor_lt_of_half_le hx hr hpos (hhigh.trans_eq hn) htop hhalf
    rw [UInt64.lt_iff_toNat_lt] at htop
    have hsucc : (x.toUInt64 + 1).toNat = x.toUInt64.toNat + 1 := by
      have hsize := topWord.toNat_lt
      rw [UInt64.toNat_add, UInt64.toNat_one, Nat.mod_eq_of_lt (by omega)]
    rw [hn, Nat.floor_natCast]
    omega
  · refine ⟨hfloor, ?_⟩
    rw [hwhole]
    exact min_le_min_right _ (Nat.floor_le_floor hhigh)

end NewsFeed.Binary64
