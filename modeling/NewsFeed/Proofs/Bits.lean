/-
Floats written as bit patterns.

As long as the sign bit is not set, the number that a pattern stands for grows with the pattern:
`magnitude` gives it, and `magnitude_lt_succ` says that the next pattern is the next greater number.

* `below_lt`, `le_below` — `below` gives the next smaller float;
* `number_fraction52` — the fractions read off random words are the multiples of `2^-52` below 1;
* `mul_le_mul_of_nonneg` — a greater fraction of a float is no smaller.
-/
import NewsFeed.Proofs.Arithmetic

namespace NewsFeed.Binary64

open Float.Model (Format UnpackedFloat)
open Float.Model.UnpackedFloat (Sign unpack pack unpackSign unpackExponent unpackMantissa)

/-- The number of a pattern without sign. -/
noncomputable def magnitude (bits : ℕ) : ℝ :=
  if bits < 2 ^ 52 then scaled bits (-1074)
  else scaled (2 ^ 52 + bits % 2 ^ 52 : ℕ) ((bits / 2 ^ 52 : ℕ) - 1075)

theorem magnitude_nonneg (bits : ℕ) : 0 ≤ magnitude bits := by
  unfold magnitude
  split_ifs <;> exact scaled_nonneg (Nat.cast_nonneg _) _

theorem magnitude_lt_succ (bits : ℕ) : magnitude bits < magnitude (bits + 1) := by
  unfold magnitude
  rcases lt_trichotomy (bits + 1) (2 ^ 52) with h | h | h
  · rw [if_pos (by omega), if_pos h]
    exact scaled_lt_scaled (by exact_mod_cast Nat.lt_succ_self bits) _
  · obtain rfl : bits = 2 ^ 52 - 1 := by omega
    rw [if_pos (by omega), if_neg (by omega)]
    norm_num [scaled]
  · rw [if_neg (by omega), if_neg (by omega)]
    by_cases hcarry : (bits + 1) % 2 ^ 52 = 0
    · -- the mantissa starts again at its least value, one exponent higher
      have hmod : bits % 2 ^ 52 = 2 ^ 52 - 1 := by omega
      have hdiv : (bits + 1) / 2 ^ 52 = bits / 2 ^ 52 + 1 := by omega
      rw [hcarry, hmod, hdiv, Nat.cast_succ, add_sub_right_comm, scaled, scaled,
        zpow_add₀ (by norm_num), zpow_one, mul_comm ((2 : ℝ) ^ _) 2, ← mul_assoc]
      exact mul_lt_mul_of_pos_right (by norm_num) (zpow_pos (by norm_num) _)
    · have hmod : (bits + 1) % 2 ^ 52 = bits % 2 ^ 52 + 1 := by omega
      have hdiv : (bits + 1) / 2 ^ 52 = bits / 2 ^ 52 := by omega
      rw [hmod, hdiv]
      exact scaled_lt_scaled (by exact_mod_cast Nat.lt_succ_self _) _

/-- Packing an unpacked word and unpacking it again changes nothing. -/
theorem unpack_pack_unpack (b : BitVec Format.binary64.numBits) :
    unpack Format.binary64 (pack Format.binary64 (unpack Format.binary64 b)) =
      unpack Format.binary64 b := by
  have hcanonical := canonical_unpack b
  cases hu : unpack Format.binary64 b with
  | notANumber => rfl
  | infinity sign => cases sign <;> rfl
  | zero sign => cases sign <;> rfl
  | finite sign mantissa exponent h =>
    exact unpack_pack_of_le (hu ▸ hcanonical) (exponent_le_of_unpack hu)

theorem unpack_ofBits (word : UInt64) :
    (Float.ofBits word).toModel.unpack = unpack Format.binary64 word.toBitVec :=
  unpack_pack_unpack _

/-- A word without sign bit. -/
theorem unpack_of_lt {b : BitVec Format.binary64.numBits} (h : b.toNat < 2 ^ 63) :
    unpack Format.binary64 b = ofFields .positive (b.toNat / 2 ^ 52) (b.toNat % 2 ^ 52) := by
  have hsign : unpackSign b = 0#1 := by
    apply BitVec.eq_of_toNat_eq
    rw [toNat_unpackSign, BitVec.toNat_ofNat]
    omega
  rw [unpack_eq_ofFields, hsign, toNat_unpackExponent, toNat_unpackMantissa,
    Nat.mod_eq_of_lt (show b.toNat / 2 ^ 52 < 2 ^ 11 by omega)]
  rfl

theorem extended_ofFields {bits : ℕ} (h : bits < 2047 * 2 ^ 52) :
    extended (ofFields .positive (bits / 2 ^ 52) (bits % 2 ^ 52)) = magnitude bits := by
  unfold ofFields magnitude
  rw [if_neg (by omega)]
  by_cases hsmall : bits < 2 ^ 52
  · rw [if_pos (by omega), if_pos hsmall, Nat.mod_eq_of_lt hsmall]
    split_ifs with hpos
    · simp [extended, Sign.apply]
    · obtain rfl : bits = 0 := by omega
      simp [extended, scaled]
  · rw [if_neg (by omega), if_neg hsmall]
    refine EReal.coe_eq_coe_iff.mpr ?_
    rw [Sign.apply, Int.cast_natCast]

theorem extended_ofFields_negative (exponent mantissa : ℕ) :
    extended (ofFields .negative exponent mantissa) ≤ 0 := by
  unfold ofFields
  split_ifs
  · exact bot_le
  · exact le_rfl
  · exact (extended_negative _ _ _).le
  · exact le_rfl
  · exact (extended_negative _ _ _).le

/-- What a pattern without sign stands for. -/
theorem number_ofBits {word : UInt64} (h : word.toNat < 2047 * 2 ^ 52) :
    number (.ofBits word) = magnitude word.toNat := by
  rw [number, unpack_ofBits, unpack_of_lt (show word.toBitVec.toNat < 2 ^ 63 by
    rw [UInt64.toNat_toBitVec]; omega), UInt64.toNat_toBitVec]
  exact extended_ofFields h

theorem isFinite_ofBits {word : UInt64} (h : word.toNat < 2047 * 2 ^ 52) :
    (Float.ofBits word).isFinite = true := by
  have hunpack : (Float.ofBits word).toModel.unpack.isFinite = true := by
    rw [unpack_ofBits, unpack_of_lt (show word.toBitVec.toNat < 2 ^ 63 by
      rw [UInt64.toNat_toBitVec]; omega), UInt64.toNat_toBitVec, ofFields, if_neg (by omega)]
    split_ifs <;> rfl
  exact hunpack

/-- The only float that is neither negative nor finite, as a pattern. -/
theorem eq_ofBits_of_not_isFinite {x : Float} (hx : 0.0 ≤ x) (h : ¬ x.isFinite = true) :
    x = .ofBits 0x7ff0000000000000 := by
  have hunpack : unpack Format.binary64 x.toBits.toBitVec = .infinity .positive :=
    unpack_eq_infinity hx h
  have hpack := @Float.Model.UnpackedFloat.pack_unpack .binary64 x.toBits.toBitVec (by decide)
  rw [hunpack] at hpack
  split_ifs at hpack
  · exact absurd hpack (by decide)
  · rw [← Float.ofBits_toBits x]
    exact congrArg Float.ofBits (UInt64.toBitVec_inj.mp (hpack.symm.trans (by rfl)))

/-! ### The next smaller float -/

/-- The pattern of a positive finite float has no sign and an exponent that is not the last. -/
theorem toNat_toBits_of_pos {x : Float} (hx : 0.0 < x) (hfinite : x.isFinite = true) :
    0 < x.toBits.toNat ∧ x.toBits.toNat < 2047 * 2 ^ 52 := by
  obtain ⟨-, -, hpos⟩ := lt_iff.mp hx
  have hfinite' : (unpack Format.binary64 x.toBits.toBitVec).isFinite = true := hfinite
  have hpos' : 0 < extended (unpack Format.binary64 x.toBits.toBitVec) := by
    rw [number_zero] at hpos
    exact hpos
  -- a word with its highest bit set is a negative number
  have hlt : x.toBits.toNat < 2 ^ 63 := by
    by_contra hge
    have hsign : @unpackSign Format.binary64 x.toBits.toBitVec = 1#1 := by
      apply BitVec.eq_of_toNat_eq
      rw [toNat_unpackSign, UInt64.toNat_toBitVec, BitVec.toNat_ofNat]
      have := x.toBits.toNat_lt
      omega
    rw [unpack_eq_ofFields, hsign] at hpos'
    exact absurd hpos' (not_lt.mpr (extended_ofFields_negative _ _))
  rw [unpack_of_lt (by rwa [UInt64.toNat_toBitVec]), UInt64.toNat_toBitVec, ofFields]
    at hpos' hfinite'
  constructor
  · by_contra hzero
    obtain hzero : x.toBits.toNat = 0 := by omega
    rw [hzero] at hpos'
    exact absurd hpos' (lt_irrefl _)
  · -- from `2047 * 2^52` on the words are the infinity and those that are no numbers
    by_contra hlast
    rw [if_pos (by omega)] at hfinite'
    split_ifs at hfinite' <;> cases hfinite'

theorem number_of_pos {x : Float} (hx : 0.0 < x) (hfinite : x.isFinite = true) :
    number x = magnitude x.toBits.toNat := by
  obtain ⟨-, hlt⟩ := toNat_toBits_of_pos hx hfinite
  rw [← extended_ofFields hlt, ← UInt64.toNat_toBitVec, ← unpack_of_lt (by
    rw [UInt64.toNat_toBitVec]; omega)]
  rfl

theorem magnitude_strictMono : StrictMono magnitude :=
  strictMono_nat_of_lt_succ magnitude_lt_succ

/-- The float below a positive one has the pattern before. -/
theorem number_below {x : Float} (hx : 0.0 < x) (hfinite : x.isFinite = true) :
    (below x).isFinite = true ∧ number (below x) = magnitude (x.toBits.toNat - 1) := by
  obtain ⟨hpos, hlt⟩ := toNat_toBits_of_pos hx hfinite
  have hone : (1 : UInt64) ≤ x.toBits := by
    rw [UInt64.le_iff_toNat_le]
    exact hpos
  have hsub : (x.toBits - 1).toNat = x.toBits.toNat - 1 := UInt64.toNat_sub_of_le _ _ hone
  refine ⟨isFinite_ofBits (by omega), ?_⟩
  rw [below, number_ofBits (by omega), hsub]

/-- The float below a positive one is smaller. -/
theorem below_lt {x : Float} (hx : 0.0 < x) (hfinite : x.isFinite = true) :
    0.0 ≤ below x ∧ below x < x := by
  obtain ⟨hpos, -⟩ := toNat_toBits_of_pos hx hfinite
  obtain ⟨hfinite', hnumber⟩ := number_below hx hfinite
  have hnan := isNaN_of_isFinite hfinite'
  constructor
  · rw [nonneg_iff, hnumber]
    exact ⟨hnan, EReal.coe_nonneg.mpr (magnitude_nonneg _)⟩
  · rw [lt_iff, hnumber, number_of_pos hx hfinite]
    exact ⟨hnan, isNaN_of_isFinite hfinite,
      EReal.coe_lt_coe_iff.mpr (magnitude_strictMono (Nat.sub_one_lt_of_lt hpos))⟩

/-- No float lies between a positive one and the float below it. -/
theorem le_below {x y : Float} (hy : 0.0 < y) (hfinite : y.isFinite = true) (h : x < y) :
    x ≤ below y := by
  obtain ⟨hbelow, hnumber⟩ := number_below hy hfinite
  have hx := (lt_iff.mp h).1
  have hnonneg := (below_lt hy hfinite).1
  by_cases hpos : 0.0 < x
  · -- both patterns have no sign, so they are in the order of the numbers
    have hxfinite := isFinite_of_le (Binary64.le_of_lt hpos) (Binary64.le_of_lt h) hfinite
    have hlt := (lt_iff.mp h).2.2
    rw [number_of_pos hpos hxfinite, number_of_pos hy hfinite, EReal.coe_lt_coe_iff,
      magnitude_strictMono.lt_iff_lt] at hlt
    rw [le_iff, hnumber, number_of_pos hpos hxfinite, EReal.coe_le_coe_iff]
    exact ⟨hx, isNaN_of_isFinite hbelow, magnitude_strictMono.monotone (Nat.le_sub_one_of_lt hlt)⟩
  · have hle : x ≤ 0.0 := by
      refine le_iff.mpr ⟨hx, isNaN_zero, le_of_not_gt fun hlt => hpos ?_⟩
      exact lt_iff.mpr ⟨isNaN_zero, hx, hlt⟩
    exact Binary64.le_trans hle hnonneg

/-! ### Random fractions -/

theorem number_one : number 1.0 = 1 := by
  have h : (1.0 : Float) = .ofBits 0x3ff0000000000000 := by rfl
  have hbits : (0x3ff0000000000000 : UInt64).toNat = 1023 * 2 ^ 52 := by rfl
  rw [h, number_ofBits (by omega), hbits, magnitude]
  norm_num [scaled]

theorem toNat_shiftRight_lt (word : UInt64) : (word >>> 12).toNat < 2 ^ 52 := by
  have hlt := word.toNat_lt
  rw [UInt64.toNat_shiftRight, Nat.shiftRight_eq_div_pow]
  show word.toNat / 2 ^ 12 < 2 ^ 52
  omega

/-- `oneToTwo` reads the top 52 bits of a word as a fraction. -/
theorem number_oneToTwo (word : UInt64) :
    (oneToTwo word).isFinite = true ∧
      number (oneToTwo word) = (((1 : ℝ) + (word >>> 12).toNat * 2 ^ (-52 : ℤ) : ℝ) : EReal) := by
  have hlt := toNat_shiftRight_lt word
  have hbits : ((0x3ff0000000000000 : UInt64) ||| (word >>> 12)).toNat =
      1023 * 2 ^ 52 + (word >>> 12).toNat := by
    rw [UInt64.toNat_or]
    exact (Nat.shiftLeft_add_eq_or_of_lt hlt 1023).symm
  refine ⟨isFinite_ofBits (by omega), ?_⟩
  rw [oneToTwo, number_ofBits (by omega), hbits, magnitude, if_neg (by omega)]
  refine EReal.coe_eq_coe_iff.mpr ?_
  rw [show (1023 * 2 ^ 52 + (word >>> 12).toNat) % 2 ^ 52 = (word >>> 12).toNat by omega,
    show (1023 * 2 ^ 52 + (word >>> 12).toNat) / 2 ^ 52 = 1023 by omega, scaled]
  norm_num
  ring

/-- The fraction that a word gives. -/
theorem number_fraction52 (word : UInt64) :
    (fraction52 word).isFinite = true ∧
      number (fraction52 word) = (((word >>> 12).toNat * 2 ^ (-52 : ℤ) : ℝ) : EReal) := by
  have hlt := toNat_shiftRight_lt word
  obtain ⟨hfinite, hnumber⟩ := number_oneToTwo word
  have hone : (1.0 : Float).isFinite = true := by rfl
  obtain ⟨hnan, hsub⟩ := sub_spec hfinite hone
  -- taking away 1 is exact: what is left is a multiple of `2^-52` below 1
  have hgrid : nearest ((word >>> 12).toNat * 2 ^ (-52 : ℤ) : ℝ) =
      (word >>> 12).toNat * 2 ^ (-52 : ℤ) := by
    have hsmall : |((word >>> 12).toNat : ℤ)| < 2 ^ 53 := by
      rw [abs_of_nonneg (by omega)]
      omega
    exact_mod_cast nearest_of_grid hsmall (by norm_num : (-1074 : ℤ) ≤ -52)
  have hrange : |((word >>> 12).toNat * 2 ^ (-52 : ℤ) : ℝ)| < limit := by
    have hcast : ((word >>> 12).toNat : ℝ) < 2 ^ (52 : ℤ) := by exact_mod_cast hlt
    rw [abs_of_nonneg (by positivity), limit]
    calc ((word >>> 12).toNat : ℝ) * 2 ^ (-52 : ℤ) ≤ (word >>> 12).toNat * 1 :=
          mul_le_mul_of_nonneg_left (by norm_num) (by positivity)
      _ < 2 ^ (52 : ℤ) := by rwa [mul_one]
      _ ≤ 2 ^ (1024 : ℤ) := zpow_le_zpow_right₀ (by norm_num) (by norm_num)
  have hvalue : number (fraction52 word) = (((word >>> 12).toNat * 2 ^ (-52 : ℤ) : ℝ) : EReal) := by
    rw [fraction52, hsub, hnumber, number_one, ← EReal.coe_one, ← EReal.coe_sub,
      rounded_coe, add_sub_cancel_left, hgrid, overflow_of_abs_lt hrange]
  exact ⟨isFinite_of_number_eq hnan hvalue, hvalue⟩

/-- The largest fraction. -/
theorem number_largest :
    (Float.ofBits 0x3feffffffffffffe).isFinite = true ∧
      number (.ofBits 0x3feffffffffffffe) = (((2 ^ 52 - 1) * 2 ^ (-52 : ℤ) : ℝ) : EReal) := by
  have hbits : (0x3feffffffffffffe : UInt64).toNat = 1022 * 2 ^ 52 + (2 ^ 52 - 2) := by rfl
  refine ⟨isFinite_ofBits (by omega), ?_⟩
  rw [number_ofBits (by omega), hbits, magnitude]
  norm_num [scaled]

theorem fraction52_nonneg (word : UInt64) : 0.0 ≤ fraction52 word := by
  obtain ⟨hfinite, hnumber⟩ := number_fraction52 word
  rw [nonneg_iff, hnumber]
  exact ⟨isNaN_of_isFinite hfinite, EReal.coe_nonneg.mpr (by positivity)⟩

theorem fraction52_le_largest (word : UInt64) :
    fraction52 word ≤ Float.ofBits 0x3feffffffffffffe := by
  obtain ⟨hfinite, hnumber⟩ := number_fraction52 word
  obtain ⟨hfinite', hnumber'⟩ := number_largest
  have hlt := toNat_shiftRight_lt word
  have hcast : ((word >>> 12).toNat : ℝ) ≤ 2 ^ 52 - 1 := by
    have hle : (word >>> 12).toNat + 1 ≤ 2 ^ 52 := hlt
    rw [le_sub_iff_add_le]
    exact_mod_cast hle
  rw [le_iff, hnumber, hnumber']
  refine ⟨isNaN_of_isFinite hfinite, isNaN_of_isFinite hfinite', EReal.coe_le_coe_iff.mpr ?_⟩
  exact mul_le_mul_of_nonneg_right hcast (by positivity)

theorem largest_le_one : Float.ofBits 0x3feffffffffffffe ≤ 1.0 := by
  obtain ⟨hfinite', hnumber'⟩ := number_largest
  rw [le_iff, hnumber', number_one, ← EReal.coe_one]
  refine ⟨isNaN_of_isFinite hfinite', by rfl, EReal.coe_le_coe_iff.mpr (by norm_num)⟩

theorem largest_nonneg : 0.0 ≤ Float.ofBits 0x3feffffffffffffe :=
  Binary64.le_trans (fraction52_nonneg 0) (fraction52_le_largest 0)

/-- Multiplying with something that is not negative keeps the order. -/
theorem mul_le_mul_of_nonneg {x y z : Float} (hx : x.isFinite = true) (hy : y.isFinite = true)
    (hz : z.isFinite = true) (hxy : x ≤ y) (hnonneg : 0.0 ≤ z) : x * z ≤ z * y := by
  obtain ⟨hnan, hnumber⟩ := mul_spec hx hz
  obtain ⟨hnan', hnumber'⟩ := mul_spec hz hy
  obtain ⟨r, hr⟩ := exists_number_eq hx
  obtain ⟨s, hs⟩ := exists_number_eq hy
  obtain ⟨t, ht⟩ := exists_number_eq hz
  refine le_iff.mpr ⟨hnan, hnan', ?_⟩
  have hle := (le_iff.mp hxy).2.2
  have hnonneg' := (nonneg_iff.mp hnonneg).2
  rw [hr, hs, EReal.coe_le_coe_iff] at hle
  rw [ht, EReal.coe_nonneg] at hnonneg'
  rw [hnumber, hnumber', hr, hs, ht, ← EReal.coe_mul, ← EReal.coe_mul]
  -- the exact products are in order, and rounding keeps the order
  refine rounded_mono (EReal.coe_le_coe_iff.mpr ?_)
  rw [mul_comm t]
  exact mul_le_mul_of_nonneg_right hle hnonneg'

/-- Factors can be exchanged. -/
theorem mul_le_mul_swap {x y : Float} (hx : x.isFinite = true) (hy : y.isFinite = true) :
    x * y ≤ y * x := by
  obtain ⟨hnan, hnumber⟩ := mul_spec hx hy
  obtain ⟨hnan', hnumber'⟩ := mul_spec hy hx
  exact le_iff.mpr ⟨hnan, hnan', by rw [hnumber, hnumber', mul_comm]⟩

protected theorem mul_nonneg {x y : Float} (hx : x.isFinite = true) (hy : y.isFinite = true)
    (hx' : 0.0 ≤ x) (hy' : 0.0 ≤ y) : 0.0 ≤ x * y := by
  obtain ⟨hnan, hnumber⟩ := mul_spec hx hy
  refine nonneg_iff.mpr ⟨hnan, ?_⟩
  rw [hnumber, ← rounded_zero]
  exact rounded_mono (EReal.mul_nonneg (nonneg_iff.mp hx').2 (nonneg_iff.mp hy').2)

theorem mul_one_le {x : Float} (hx : x.isFinite = true) : x * 1.0 ≤ x := by
  have hone : (1.0 : Float).isFinite = true := by rfl
  obtain ⟨hnan, hnumber⟩ := mul_spec hx hone
  refine le_iff.mpr ⟨hnan, isNaN_of_isFinite hx, ?_⟩
  rw [hnumber, number_one, mul_one, rounded_number]

end NewsFeed.Binary64
