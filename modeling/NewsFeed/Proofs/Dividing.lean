/-
Dividing floats.

A quotient of two floats has no end in binary as a rule.  Its mantissa is computed by dividing
integers, with as many digits as rounding can look at, and the remainder says how the digits behind
them compare with a half; so the quotient is the exact one, rounded once.

Counts of 32 bits are floats themselves, and with that a ratio of two counts is known exactly before
it is rounded.

* `div_spec` — dividing finite floats is dividing their numbers and rounding;
* `div_le_div_of_pos` — dividing by a positive float keeps the order;
* `number_ratio` — what the ratio of two counts stands for;
* `ratio_pos_iff` — when it is positive.
-/
import NewsFeed.Proofs.Bits

namespace NewsFeed.Binary64

open Float.Model (Format UnpackedFloat totalExponent)
open Float.Model.UnpackedFloat (Sign divCore)

theorem sign_div (sign sign' : Sign) : sign / sign' = sign * sign' := by
  cases sign <;> cases sign' <;> rfl

/-- The sign of a quotient. -/
theorem apply_div (sign sign' : Sign) (x y : ℝ) :
    ((sign / sign').apply 1 : ℝ) * (x / y) = sign.apply 1 * x / (sign'.apply 1 * y) := by
  cases sign <;> cases sign' <;> simp [Sign.apply, sign_div, neg_div, div_neg]

/-- The leading place of a quotient is at most one below the difference of the leading places. -/
theorem le_log_div {m m' : ℕ} (e e' : ℤ) (hm : 0 < m) (hm' : 0 < m') :
    (m.log2 + e) - (m'.log2 + e') - 1 ≤ Int.log 2 ((m * 2 ^ e : ℝ) / (m' * 2 ^ e')) := by
  have hpow : ∀ k : ℤ, (0 : ℝ) < 2 ^ k := fun k => zpow_pos (by norm_num) k
  have hlow : (2 : ℝ) ^ (m.log2 : ℤ) ≤ m := by exact_mod_cast Nat.log2_self_le hm.ne'
  have hhigh : (m' : ℝ) ≤ 2 ^ (m'.log2 + 1 : ℤ) := by exact_mod_cast Nat.lt_log2_self.le
  have hpos : (0 : ℝ) < m' * 2 ^ e' := mul_pos (by exact_mod_cast hm') (hpow e')
  refine (Int.zpow_le_iff_le_log (b := 2) (by norm_num)
    (div_pos (mul_pos (by exact_mod_cast hm) (hpow e)) hpos)).mp ?_
  push_cast
  -- the divisor is below the power of two after its leading one
  rw [le_div_iff₀ hpos]
  calc (2 : ℝ) ^ (m.log2 + e - (m'.log2 + e') - 1) * (m' * 2 ^ e')
      ≤ 2 ^ (m.log2 + e - (m'.log2 + e') - 1) * (2 ^ (m'.log2 + 1 : ℤ) * 2 ^ e') :=
        mul_le_mul_of_nonneg_left (mul_le_mul_of_nonneg_right hhigh (hpow e').le) (hpow _).le
    _ = 2 ^ (m.log2 : ℤ) * 2 ^ e := by
        rw [← zpow_add₀ (by norm_num), ← zpow_add₀ (by norm_num), ← zpow_add₀ (by norm_num)]
        congr 1
        ring
    _ ≤ m * 2 ^ e := mul_le_mul_of_nonneg_right hlow (hpow e).le

/-- The mantissas of two floats are divided with enough digits. -/
theorem divCore_spec (sign : Sign) {m m' : ℕ} (e e' : ℤ) (hm : 0 < m) (hm' : 0 < m') :
    StandsFor (UnpackedFloat.roundWithAccuracy Format.binary64 sign
        (divCore Format.binary64 m e m' e').1 (divCore Format.binary64 m e m' e').2.1
        (divCore Format.binary64 m e m' e').2.2)
      (nearest (sign.apply 1 * ((m * 2 ^ e : ℝ) / (m' * 2 ^ e')))) := by
  have hmin : Format.binary64.minExponent = -1074 := rfl
  have hbits : Format.binary64.mantissaBits = 53 := rfl
  have hpow : ∀ k : ℤ, (0 : ℝ) < 2 ^ k := fun k => zpow_pos (by norm_num) k
  obtain ⟨t, ht⟩ : ∃ t, t = min (e - e') (Format.binary64.targetExponent
    (totalExponent m e - totalExponent m' e')) := ⟨_, rfl⟩
  obtain ⟨n, hn⟩ : ∃ n, n = m <<< (e - e' - t).toNat := ⟨_, rfl⟩
  have hcore : divCore Format.binary64 m e m' e' =
      (n / m', t, UnpackedFloat.accuracyOfFraction (n % m') m') := by
    rw [divCore, hn, ht]
  have htarget : t ≤ e - e' ∧ t ≤ max (m.log2 + e - (m'.log2 + e') - 53) (-1074) := by
    rw [Format.targetExponent, hmin, hbits, totalExponent, totalExponent] at ht
    omega
  have hquotient : (m * 2 ^ e : ℝ) / (m' * 2 ^ e') = n / m' * 2 ^ t := by
    have hshift : (2 : ℝ) ^ e = 2 ^ (e - e' - t).toNat * 2 ^ t * 2 ^ e' := by
      rw [← zpow_natCast, ← zpow_add₀ (by norm_num), ← zpow_add₀ (by norm_num)]
      congr 1
      omega
    rw [hn, Nat.shiftLeft_eq, hshift]
    push_cast
    have hne := (hpow e').ne'
    field_simp
  have hpos : (0 : ℝ) < n / m' := by
    rw [hn, Nat.shiftLeft_eq]
    positivity
  have hlog := le_log_div e e' hm hm'
  rw [hquotient] at hlog ⊢
  rw [hcore]
  dsimp only
  refine roundWithAccuracy_of_holds sign hpos (holds_quotient n hm') ?_ ?_
  · -- a quotient without a whole part is below every number with one
    rcases Nat.eq_zero_or_pos (n / m') with hzero | hwhole
    · right
      have hlt : Int.log 2 (n / m' * 2 ^ t : ℝ) < t := by
        refine (Int.lt_zpow_iff_log_lt (b := 2) (by norm_num) (mul_pos hpos (hpow t))).mp ?_
        have hone : (n / m' : ℝ) < 1 := by
          have hfloor := (holds_quotient n hm').floor_eq
          rw [hzero] at hfloor
          simpa using (Int.floor_eq_iff.mp hfloor).2
        push_cast
        exact mul_lt_of_lt_one_left (hpow t) hone
      omega
    · exact .inl hwhole
  · rw [spacingExponent, abs_of_pos (mul_pos hpos (hpow t))]
    omega

section

variable {u v : UnpackedFloat} {r s : ℝ}

theorem StandsFor.div (hu : StandsFor u r) (hv : StandsFor v s) (hs : s ≠ 0) :
    StandsFor (u.div Format.binary64 v) (nearest (r / s)) := by
  cases v with
  | notANumber => cases hv.finite
  | infinity sign' => cases hv.finite
  | zero sign' => exact absurd (EReal.coe_eq_coe_iff.mp hv.value).symm hs
  | finite sign' m' e' h' =>
    obtain rfl : (sign'.apply m' * 2 ^ e' : ℝ) = s := EReal.coe_eq_coe_iff.mp hv.value
    cases u with
    | notANumber => cases hu.finite
    | infinity sign => cases hu.finite
    | zero sign =>
      -- zero over anything finite
      obtain rfl : 0 = r := EReal.coe_eq_coe_iff.mp hu.value
      rw [zero_div, nearest_zero]
      exact StandsFor.zero _
    | finite sign m e h =>
      obtain rfl : (sign.apply m * 2 ^ e : ℝ) = r := EReal.coe_eq_coe_iff.mp hu.value
      -- the signs are divided apart from the mantissas
      have hspec := divCore_spec (sign / sign') e e' h h'
      rw [apply_div, ← apply_mul, ← apply_mul] at hspec
      exact hspec

end

/-- Dividing by a finite float other than 0. -/
theorem div_spec {x y : Float} (hx : x.isFinite = true) (hy : y.isFinite = true)
    (hne : number y ≠ 0) :
    (x / y).isNaN = false ∧ number (x / y) = rounded (number x / number y) := by
  obtain ⟨r, hr⟩ := exists_number_eq hx
  obtain ⟨s, hs⟩ := exists_number_eq hy
  have hs0 : s ≠ 0 := fun hzero => hne (by rw [hs, hzero, EReal.coe_zero])
  rw [hr, hs, ← EReal.coe_div]
  exact ((standsFor_toModel hx hr).div (standsFor_toModel hy hs) hs0).number_pack

/-- Dividing a finite number by an infinite one. -/
theorem StandsFor.div_infinity {u : UnpackedFloat} {r : ℝ} (hu : StandsFor u r) (sign : Sign) :
    StandsFor (u.div Format.binary64 (.infinity sign)) (nearest 0) := by
  rw [nearest_zero]
  cases u with
  | notANumber => cases hu.finite
  | infinity sign' => cases hu.finite
  | zero sign' => exact StandsFor.zero _
  | finite sign' m e h => exact StandsFor.zero _

/-- Dividing floats that are not negative by a positive one, which may be infinite, keeps their
order. -/
theorem div_le_div_of_pos {x y z : Float} (hx : 0.0 ≤ x) (hxy : x ≤ y) (hy : y.isFinite = true)
    (hz : 0.0 < z) : 0.0 ≤ x / z ∧ x / z ≤ y / z := by
  have hfinite : x.isFinite = true := isFinite_of_le hx hxy hy
  obtain ⟨r, hr⟩ := exists_number_eq hfinite
  obtain ⟨s, hs⟩ := exists_number_eq hy
  by_cases hzfinite : z.isFinite = true
  · obtain ⟨t, ht⟩ := exists_number_eq hzfinite
    have hle := (le_iff.mp hxy).2.2
    have hnonneg := (nonneg_iff.mp hx).2
    have hpos := (lt_iff.mp hz).2.2
    have hne : number z ≠ 0 := by
      rw [number_zero] at hpos
      exact hpos.ne'
    -- both quotients are rounded from exact ones, and rounding keeps their order
    obtain ⟨hnan, hnumber⟩ := div_spec hfinite hzfinite hne
    obtain ⟨hnan', hnumber'⟩ := div_spec hy hzfinite hne
    rw [hr, ht, ← EReal.coe_div] at hnumber
    rw [hs, ht, ← EReal.coe_div] at hnumber'
    rw [hr, hs, EReal.coe_le_coe_iff] at hle
    rw [hr, EReal.coe_nonneg] at hnonneg
    rw [ht, number_zero, EReal.coe_pos] at hpos
    rw [nonneg_iff, le_iff, hnumber, hnumber']
    refine ⟨⟨hnan, ?_⟩, hnan, hnan', rounded_mono ?_⟩
    · rw [← rounded_zero]
      exact rounded_mono (EReal.coe_nonneg.mpr (div_nonneg hnonneg hpos.le))
    · exact EReal.coe_le_coe_iff.mpr (div_le_div_of_nonneg_right hle hpos.le)
  · -- a finite number over infinity is 0, so both quotients are
    have hinfinity := unpack_eq_infinity (Binary64.le_of_lt hz) hzfinite
    have hquotient := (standsFor_toModel hfinite hr).div_infinity .positive
    have hquotient' := (standsFor_toModel hy hs).div_infinity .positive
    rw [← hinfinity] at hquotient hquotient'
    obtain ⟨hnan, hnumber⟩ : (x / z).isNaN = false ∧ number (x / z) = rounded (0 : ℝ) :=
      hquotient.number_pack
    obtain ⟨hnan', hnumber'⟩ : (y / z).isNaN = false ∧ number (y / z) = rounded (0 : ℝ) :=
      hquotient'.number_pack
    rw [EReal.coe_zero, rounded_zero] at hnumber hnumber'
    rw [nonneg_iff, le_iff, hnumber, hnumber']
    exact ⟨⟨hnan, le_rfl⟩, hnan, hnan', le_rfl⟩

/-! ### Ratios of counts -/

/-- A count of 32 bits is a float. -/
theorem number_toFloat (n : UInt32) :
    n.toFloat.isFinite = true ∧ number n.toFloat = (n.toNat : ℝ) := by
  have hlt : n.toNat < 2 ^ 32 := n.toNat_lt
  have hgrid := nearest_of_grid (n := n.toNat) (e := 0) (by rw [Nat.abs_cast]; omega) (by norm_num)
  have hlimit : |(n.toNat : ℝ)| < limit := by
    rw [abs_of_nonneg (Nat.cast_nonneg _), limit]
    calc (n.toNat : ℝ) < 2 ^ (32 : ℤ) := by exact_mod_cast hlt
      _ ≤ 2 ^ (1024 : ℤ) := zpow_le_zpow_right₀ (by norm_num) (by norm_num)
  rw [zpow_zero, mul_one, Int.cast_natCast] at hgrid
  have hspec := normalize_spec n.toNat 0 .positive
  rw [zpow_zero, mul_one, Int.cast_natCast] at hspec
  obtain ⟨hfinite, hnumber⟩ := hspec.isFinite_pack (hgrid.symm ▸ hlimit)
  exact ⟨hfinite, hnumber.trans (congrArg _ hgrid)⟩

/-- The ratio of two counts is the exact one, rounded. -/
theorem number_ratio (n : UInt32) {d : UInt32} (hd : 0 < d.toNat) :
    (n.toFloat / d.toFloat).isNaN = false ∧
      number (n.toFloat / d.toFloat) = rounded ((n.toNat / d.toNat : ℝ) : ℝ) := by
  obtain ⟨hn, hnumber⟩ := number_toFloat n
  obtain ⟨hd', hnumber'⟩ := number_toFloat d
  have hne : number d.toFloat ≠ 0 := by
    rw [hnumber']
    exact_mod_cast hd.ne'
  have hspec := div_spec hn hd' hne
  rwa [hnumber, hnumber', ← EReal.coe_div] at hspec

/-- The ratio of a count to one that is no smaller lies between 0 and 1. -/
theorem ratio_mem_unit {n d : UInt32} (hd : 0 < d.toNat) (hle : n.toNat ≤ d.toNat) :
    0.0 ≤ n.toFloat / d.toFloat ∧ n.toFloat / d.toFloat ≤ 1.0 := by
  obtain ⟨hnan, hnumber⟩ := number_ratio n hd
  have hpos : (0 : ℝ) < d.toNat := by exact_mod_cast hd
  refine ⟨nonneg_iff.mpr ⟨hnan, ?_⟩, le_iff.mpr ⟨hnan, by rfl, ?_⟩⟩
  · rw [hnumber, ← rounded_zero]
    refine rounded_mono ?_
    exact_mod_cast div_nonneg (Nat.cast_nonneg _) hpos.le
  · rw [hnumber, ← rounded_number 1.0, number_one]
    refine rounded_mono ?_
    exact_mod_cast (div_le_one hpos).mpr (by exact_mod_cast hle)

/-- A ratio of counts is positive if there is anything to divide: even the smallest is not rounded
to 0. -/
theorem ratio_pos_iff {n d : UInt32} (hd : 0 < d.toNat) :
    0.0 < n.toFloat / d.toFloat ↔ 0 < n.toNat := by
  obtain ⟨hnan, hnumber⟩ := number_ratio n hd
  have hpos : (0 : ℝ) < d.toNat := by exact_mod_cast hd
  rw [lt_iff, number_zero, hnumber]
  constructor
  · rintro ⟨-, -, hlt⟩
    refine Nat.pos_of_ne_zero fun hzero => ?_
    -- 0 over anything is 0
    rw [hzero, Nat.cast_zero, zero_div, EReal.coe_zero, rounded_zero] at hlt
    exact lt_irrefl _ hlt
  · intro hn
    refine ⟨isNaN_zero, hnan, ?_⟩
    have hdlt : d.toNat < 2 ^ 32 := d.toNat_lt
    -- two 32-bit numbers are at most a factor `2^32` apart, and `2^-32` is far from vanishing
    have hleast : (2 ^ (-32 : ℤ) : ℝ) ≤ n.toNat / d.toNat := by
      rw [le_div_iff₀ hpos, zpow_neg, inv_mul_le_iff₀ (by positivity)]
      have hlarge : d.toNat ≤ 2 ^ 32 * n.toNat := by omega
      exact_mod_cast hlarge
    have hgrid := nearest_of_grid (n := 1) (e := -32) (by norm_num) (by norm_num)
    rw [Int.cast_one, one_mul] at hgrid
    have hlimit : |(2 ^ (-32 : ℤ) : ℝ)| < limit := by
      rw [abs_of_pos (by positivity), limit]
      exact zpow_lt_zpow_right₀ (by norm_num) (by norm_num)
    calc (0 : EReal) < ((2 ^ (-32 : ℤ) : ℝ) : EReal) := by exact_mod_cast (by positivity)
      _ = rounded ((2 ^ (-32 : ℤ) : ℝ) : EReal) := by
          rw [rounded_coe, hgrid, overflow_of_abs_lt hlimit]
      _ ≤ rounded ((n.toNat / d.toNat : ℝ) : ℝ) := rounded_mono (by exact_mod_cast hleast)

end NewsFeed.Binary64
