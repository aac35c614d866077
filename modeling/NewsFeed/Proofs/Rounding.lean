/-
Rounding to binary64 over the real numbers, part 3: what the arithmetic of floats rounds to.

The sum or product of two floats is first computed exactly, as an integer times a power of two, and
then cut down to 53 digits.  The digits cut off are remembered by two bits, one for the first of
them and one for all others; `Holds` says which real numbers a mantissa with these bits can come
from.

* `roundWithAccuracy_of_holds` — cutting down a number that is given by its whole part and the two
  bits gives its `nearest` float, in canonical form;
* `normalize_spec` — the same for a signed integer at any exponent.
-/
import NewsFeed.Proofs.Extended

namespace NewsFeed.Binary64

open Float.Model (Format UnpackedFloat totalExponent)
open Float.Model.UnpackedFloat (Sign Accuracy ExtendedMantissa accuracyOfFraction shiftToExponent
  shiftToTargetExponent roundWithAccuracy decreaseExponent)

/-! ### Cutting digits off -/

/-- Whether a mantissa with its two extra bits comes from `x`. -/
structure Holds (em : ExtendedMantissa) (x : ℝ) : Prop where
  floor : ⌊x⌋ = em.mantissa
  round : em.roundBit = true ↔ 1 / 2 ≤ Int.fract x
  sticky : em.stickyBit = true ↔ Int.fract (2 * x) ≠ 0

theorem Holds.floor_eq {m : ℕ} {accuracy : Accuracy} {x : ℝ}
    (h : Holds (.ofMantissaAndAccuracy m accuracy) x) : ⌊x⌋ = m := by
  have hmantissa : (ExtendedMantissa.ofMantissaAndAccuracy m accuracy).mantissa = m := by
    unfold ExtendedMantissa.ofMantissaAndAccuracy
    split <;> rfl
  rw [h.floor, hmantissa]

theorem holds_exact (m : ℕ) : Holds (.ofMantissaAndAccuracy m .exact) m where
  floor := by
    rw [Int.floor_natCast]
    rfl
  round := by
    rw [Int.fract_natCast]
    norm_num [ExtendedMantissa.ofMantissaAndAccuracy]
  sticky := by
    have h : (2 * m : ℝ) = ((2 * m : ℕ) : ℝ) := by push_cast; rfl
    rw [h, Int.fract_natCast]
    simp [ExtendedMantissa.ofMantissaAndAccuracy]

/-- The part of `2 * x` after the point, from that of `x`. -/
theorem fract_two_mul (x : ℝ) :
    Int.fract (2 * x) =
      if 1 / 2 ≤ Int.fract x then 2 * Int.fract x - 1 else 2 * Int.fract x := by
  have hnonneg := Int.fract_nonneg x
  have hlt := Int.fract_lt_one x
  have hself := Int.self_sub_floor x
  split_ifs with h
  · refine (Int.fract_eq_iff).mpr ⟨by linarith, by linarith, 2 * ⌊x⌋ + 1, ?_⟩
    push_cast
    linarith
  · refine (Int.fract_eq_iff).mpr ⟨by linarith, by linarith, 2 * ⌊x⌋, ?_⟩
    push_cast
    linarith

/-- The whole part of a quotient, with the bits that compare its remainder with half the divisor. -/
theorem holds_quotient (n : ℕ) {d : ℕ} (hd : 0 < d) :
    Holds (.ofMantissaAndAccuracy (n / d) (accuracyOfFraction (n % d) d)) (n / d : ℝ) := by
  have hpos : (0 : ℝ) < d := by exact_mod_cast hd
  have hfloor : ⌊(n / d : ℝ)⌋ = (n / d : ℕ) := by
    rw [← Int.natCast_floor_eq_floor (by positivity), Nat.floor_div_eq_div]
  have hfract : Int.fract (n / d : ℝ) = (n % d : ℕ) / d :=
    Int.fract_div_natCast_eq_div_natCast_mod
  -- whether the rest reaches one half is a comparison of twice the remainder with the divisor
  have hhalf : 1 / 2 ≤ Int.fract (n / d : ℝ) ↔ d ≤ 2 * (n % d) := by
    rw [hfract, div_le_div_iff₀ (by norm_num) hpos, one_mul, mul_comm]
    exact_mod_cast Iff.rfl
  -- and it is 0 or exactly one half where the digits behind the next one are all 0
  have hwhole : Int.fract (2 * (n / d : ℝ)) = 0 ↔ 2 * (n % d) = d ∨ n % d = 0 := by
    have hcast : (2 * (n % d : ℕ) : ℝ) = d ↔ 2 * (n % d) = d := by exact_mod_cast Iff.rfl
    rw [fract_two_mul]
    split_ifs with h
    · have hne : n % d ≠ 0 := by
        have := hhalf.mp h
        omega
      rw [or_iff_left hne, hfract, sub_eq_zero, ← mul_div_assoc, div_eq_one_iff_eq hpos.ne', hcast]
    · have hne : 2 * (n % d) ≠ d := fun heq => h (hhalf.mpr heq.ge)
      rw [or_iff_right hne, hfract, ← mul_div_assoc, div_eq_zero_iff]
      simp [hpos.ne']
  -- exact, below one half, one half, above it
  unfold accuracyOfFraction
  split_ifs with hzero
  · refine ⟨hfloor, ?_, ?_⟩
    · rw [hhalf, hzero]
      simpa [ExtendedMantissa.ofMantissaAndAccuracy] using hd.ne'
    · rw [ne_eq, hwhole]
      simp [ExtendedMantissa.ofMantissaAndAccuracy, hzero]
  · rcases lt_trichotomy (2 * (n % d)) d with hlt | heq | hgt
    · rw [compare_lt_iff_lt.mpr hlt]
      refine ⟨hfloor, ?_, ?_⟩
      · rw [hhalf]
        simpa [ExtendedMantissa.ofMantissaAndAccuracy] using hlt
      · rw [ne_eq, hwhole]
        simp [ExtendedMantissa.ofMantissaAndAccuracy, hzero, hlt.ne]
    · rw [compare_eq_iff_eq.mpr heq]
      refine ⟨hfloor, ?_, ?_⟩
      · rw [hhalf]
        simp [ExtendedMantissa.ofMantissaAndAccuracy, heq]
      · rw [ne_eq, hwhole]
        simp [ExtendedMantissa.ofMantissaAndAccuracy, heq]
    · rw [compare_gt_iff_gt.mpr hgt]
      refine ⟨hfloor, ?_, ?_⟩
      · rw [hhalf]
        simpa [ExtendedMantissa.ofMantissaAndAccuracy] using hgt.le
      · rw [ne_eq, hwhole]
        simp [ExtendedMantissa.ofMantissaAndAccuracy, hzero, hgt.ne']

/-- The bits of a number are enough to round it. -/
theorem Holds.roundedMantissa {em : ExtendedMantissa} {x : ℝ} (h : Holds em x) :
    (em.roundedMantissa : ℤ) = roundEven x := by
  obtain ⟨m, r, s⟩ := em
  obtain ⟨hfloor, hround, hsticky⟩ := h
  rw [fract_two_mul] at hsticky
  unfold roundEven
  rw [hfloor]
  cases r with
  | false =>
    -- below one half: down
    have hlt : Int.fract x < 1 / 2 := by simpa using hround
    rw [if_pos hlt]
    cases s <;> rfl
  | true =>
    have hge : 1 / 2 ≤ Int.fract x := hround.mp rfl
    rw [if_neg (not_lt.mpr hge)]
    rw [if_pos hge] at hsticky
    cases s with
    | false =>
      -- one half: to the even one
      have hzero : 2 * Int.fract x - 1 = 0 := by simpa using hsticky
      rw [if_neg (by linarith)]
      rfl
    | true =>
      -- above one half: up
      have hne : 2 * Int.fract x - 1 ≠ 0 := hsticky.mp rfl
      have hgt : 1 / 2 < Int.fract x := lt_of_le_of_ne hge fun heq => hne (by linarith)
      rw [if_pos hgt]
      rfl

/-- Cutting off one more digit halves the number. -/
theorem Holds.shiftRightOne {em : ExtendedMantissa} {x : ℝ} (h : Holds em x) :
    Holds em.shiftRightOne (x / 2) := by
  have hself := Int.self_sub_floor x
  have hnonneg := Int.fract_nonneg x
  have hlt := Int.fract_lt_one x
  have hmod : (em.mantissa : ℝ) = 2 * (em.mantissa / 2 : ℕ) + (em.mantissa % 2 : ℕ) := by
    exact_mod_cast (Nat.div_add_mod em.mantissa 2).symm
  have hfloor : (⌊x⌋ : ℝ) = em.mantissa := by exact_mod_cast h.floor
  -- the digit that is shifted out is the new half
  have hcases : em.mantissa % 2 = 0 ∨ em.mantissa % 2 = 1 := by omega
  have hhalf : ⌊x / 2⌋ = (em.mantissa / 2 : ℕ) := by
    rw [Int.floor_eq_iff, Int.cast_natCast]
    rcases hcases with hm | hm <;> rw [hm] at hmod <;> push_cast at hmod ⊢ <;>
      constructor <;> linarith
  have hfract : Int.fract (x / 2) = ((em.mantissa % 2 : ℕ) + Int.fract x) / 2 := by
    rw [← Int.self_sub_floor, hhalf, Int.cast_natCast]
    linarith
  constructor
  · exact hhalf
  · rw [hfract]
    rcases hcases with hm | hm
    · simp only [ExtendedMantissa.shiftRightOne, hm]
      norm_num
      linarith
    · simp only [ExtendedMantissa.shiftRightOne, hm]
      norm_num
      linarith
  · rw [mul_div_cancel₀ x (two_ne_zero)]
    -- the old half joins the digits behind it
    have hsticky := h.sticky
    rw [fract_two_mul] at hsticky
    have hround := h.round
    simp only [ExtendedMantissa.shiftRightOne, Bool.or_eq_true, hround, hsticky]
    split_ifs with hge
    · simp only [hge, true_or, true_iff]
      linarith
    · simp only [hge, false_or]
      exact mul_ne_zero_iff_left two_ne_zero

theorem Holds.shiftRight {em : ExtendedMantissa} {x : ℝ} (h : Holds em x) (n : ℕ) :
    Holds (em >>> n) (x / 2 ^ n) := by
  induction n with
  | zero =>
    rw [pow_zero, div_one]
    exact h
  | succ n ih =>
    have hstep := ih.shiftRightOne
    rw [div_div, ← pow_succ] at hstep
    exact hstep

/-! ### Cutting down to 53 digits -/

/-- The leading place of a number is that of its whole part. -/
theorem log_mul_two_zpow_of_floor {x : ℝ} {m : ℕ} (hm : 0 < m) (hfloor : ⌊x⌋ = m) (e : ℤ) :
    Int.log 2 (x * 2 ^ e) = m.log2 + e := by
  have hpow : (0 : ℝ) < 2 ^ e := zpow_pos (by norm_num) _
  obtain ⟨hle, hlt⟩ := Int.floor_eq_iff.mp hfloor
  rw [Int.cast_natCast] at hle hlt
  have hpos : 0 < x * 2 ^ e := mul_pos ((Nat.cast_pos.mpr hm).trans_le hle) hpow
  -- between the power of two of its leading digit and the next one
  have hlow : (2 : ℝ) ^ (m.log2 : ℤ) ≤ x := by
    refine le_trans ?_ hle
    exact_mod_cast Nat.log2_self_le hm.ne'
  have hhigh : x < 2 ^ (m.log2 + 1 : ℤ) := by
    refine hlt.trans_le ?_
    exact_mod_cast Nat.succ_le_of_lt Nat.lt_log2_self
  refine le_antisymm (Int.lt_add_one_iff.mp ?_) ?_
  · refine (Int.lt_zpow_iff_log_lt (b := 2) (by norm_num) hpos).mp ?_
    push_cast
    rw [show (m.log2 : ℤ) + e + 1 = (m.log2 + 1) + e by ring, zpow_add₀ (by norm_num)]
    exact mul_lt_mul_of_pos_right hhigh hpow
  · refine (Int.zpow_le_iff_le_log (b := 2) (by norm_num) hpos).mp ?_
    push_cast
    rw [zpow_add₀ (by norm_num)]
    exact mul_le_mul_of_nonneg_right hlow hpow.le

theorem log_mul_two_zpow {m : ℕ} (hm : 0 < m) (e : ℤ) :
    Int.log 2 ((m : ℝ) * 2 ^ e) = m.log2 + e :=
  log_mul_two_zpow_of_floor hm (Int.floor_natCast m) e

/-- The exponent that rounding aims at is that of the spacing. A number without a whole part has to
be so small that the spacing is the least one. -/
theorem targetExponent_of_floor {x : ℝ} {m : ℕ} {e : ℤ} (hx : 0 < x) (hfloor : ⌊x⌋ = m)
    (h : 0 < m ∨ e ≤ -1022) :
    Format.binary64.targetExponent (totalExponent m e) = spacingExponent (x * 2 ^ e) := by
  have hpow : (0 : ℝ) < 2 ^ e := zpow_pos (by norm_num) _
  have hmin : Format.binary64.minExponent = -1074 := rfl
  have hbits : Format.binary64.mantissaBits = 53 := rfl
  rw [spacingExponent, abs_of_pos (mul_pos hx hpow), Format.targetExponent, hmin, hbits,
    totalExponent]
  rcases Nat.eq_zero_or_pos m with rfl | hm
  · have hlt : Int.log 2 (x * 2 ^ e) < e := by
      refine (Int.lt_zpow_iff_log_lt (b := 2) (by norm_num) (mul_pos hx hpow)).mp ?_
      have hone : x < 1 := by simpa using (Int.floor_eq_iff.mp hfloor).2
      push_cast
      exact mul_lt_of_lt_one_left hpow hone
    have hlog : (0 : ℕ).log2 = 0 := by decide
    omega
  · rw [log_mul_two_zpow_of_floor hm hfloor]
    omega

theorem targetExponent_eq {m : ℕ} (hm : 0 < m) (e : ℤ) :
    Format.binary64.targetExponent (totalExponent m e) = spacingExponent ((m : ℝ) * 2 ^ e) :=
  targetExponent_of_floor (by exact_mod_cast hm) (Int.floor_natCast m) (.inl hm)

/-- A mantissa of at most 53 digits is left alone. -/
theorem shiftToTargetExponent_of_lt {m : ℕ} {e : ℤ} (hm : m < 2 ^ 53) (he : -1074 ≤ e) :
    shiftToTargetExponent Format.binary64 m e .exact = (⟨m, false, false⟩, e) := by
  have hlog : m.log2 ≤ 52 := by
    rcases Nat.eq_zero_or_pos m with rfl | hpos
    · decide
    · exact Nat.lt_succ_iff.mp ((Nat.log2_lt hpos.ne').mpr hm)
  have hmin : Format.binary64.minExponent = -1074 := rfl
  have hbits : Format.binary64.mantissaBits = 53 := rfl
  have htarget : Format.binary64.targetExponent (totalExponent m e) ≤ e := by
    rw [Format.targetExponent, hmin, hbits, totalExponent]
    omega
  have hshift : (Format.binary64.targetExponent (totalExponent m e) - e).toNat = 0 := by omega
  rw [shiftToTargetExponent, shiftToExponent, hshift, Int.ofNat_zero, add_zero]
  rfl

/-- A mantissa that rounding has carried over to 54 digits loses its last one, a zero. -/
theorem shiftToTargetExponent_carry {e : ℤ} (he : -1074 ≤ e) :
    shiftToTargetExponent Format.binary64 (2 ^ 53) e .exact =
      (⟨2 ^ 52, false, false⟩, e + 1) := by
  have hlog : (2 ^ 53 : ℕ).log2 = 53 := Nat.log2_two_pow
  have hmin : Format.binary64.minExponent = -1074 := rfl
  have hbits : Format.binary64.mantissaBits = 53 := rfl
  have hshift : (Format.binary64.targetExponent (totalExponent (2 ^ 53) e) - e).toNat = 1 := by
    rw [Format.targetExponent, hmin, hbits, totalExponent, hlog]
    omega
  rw [shiftToTargetExponent, shiftToExponent, hshift]
  rfl

/-! ### The rounded float -/

/-- Whether an unpacked float is a finite one in canonical form and stands for `x`. -/
structure StandsFor (u : UnpackedFloat) (x : ℝ) : Prop where
  canonical : Canonical u
  finite : u.isFinite = true
  value : extended u = (x : EReal)

theorem StandsFor.zero (sign : Sign) : StandsFor (.zero sign) 0 :=
  ⟨trivial, rfl, rfl⟩

/-- The mantissa cut down to the spacing around a positive number, rounded: it has at most 53
digits but for a carry, and no fewer unless the spacing is the least one. -/
theorem roundEven_div_spacing {x : ℝ} (hx : 0 < x) :
    roundEven (x / spacing x) ≤ 2 ^ 53 ∧
      (2 ^ 52 ≤ roundEven (x / spacing x) ∨ spacingExponent x = -1074) := by
  have hexponent : spacingExponent x = max (Int.log 2 x - 52) (-1074) := by
    rw [spacingExponent, abs_of_pos hx]
  constructor
  · -- `x` is below the next power of two, which is a whole number of spacings
    have hlt : x < (2 : ℝ) ^ (Int.log 2 x + 1) := by
      exact_mod_cast (Int.lt_zpow_iff_log_lt (b := 2) (by norm_num) hx).mpr (by omega)
    have hle : x / spacing x ≤ ((2 ^ 53 : ℤ) : ℝ) := by
      rw [div_le_iff₀ (spacing_pos x), spacing, Int.cast_pow, Int.cast_ofNat, ← zpow_natCast,
        ← zpow_add₀ (by norm_num)]
      exact hlt.le.trans (zpow_le_zpow_right₀ (by norm_num) (by push_cast; omega))
    have hround := roundEven_mono hle
    rw [roundEven_intCast] at hround
    exact hround
  · rcases le_or_gt (Int.log 2 x - 52) (-1074) with hsmall | hlarge
    · exact .inr (by omega)
    · left
      have hle : (2 : ℝ) ^ Int.log 2 x ≤ x := by
        exact_mod_cast Int.zpow_log_le_self (b := 2) (by norm_num) hx
      have hge : ((2 ^ 52 : ℤ) : ℝ) ≤ x / spacing x := by
        rw [le_div_iff₀ (spacing_pos x), spacing, Int.cast_pow, Int.cast_ofNat, ← zpow_natCast,
          ← zpow_add₀ (by norm_num)]
        exact (zpow_le_zpow_right₀ (by norm_num) (by push_cast; omega)).trans hle
      have hround := roundEven_mono hge
      rw [roundEven_intCast] at hround
      exact hround

/-- What the first of the two shifts of rounding leads to. -/
theorem shiftToTargetExponent_spec {x : ℝ} {m : ℕ} {e : ℤ} {accuracy : Accuracy} (hx : 0 < x)
    (h : Holds (.ofMantissaAndAccuracy m accuracy) x) (hsmall : 0 < m ∨ e ≤ -1022)
    (he : e ≤ spacingExponent (x * 2 ^ e)) :
    ∃ em n, shiftToTargetExponent Format.binary64 m e accuracy =
        (em, spacingExponent (x * 2 ^ e)) ∧
      em.roundedMantissa = n ∧ roundEven (x * 2 ^ e / spacing (x * 2 ^ e)) = n := by
  set t := spacingExponent (x * 2 ^ e) with ht
  have hshift : e + ((t - e).toNat : ℤ) = t := by omega
  refine ⟨ExtendedMantissa.ofMantissaAndAccuracy m accuracy >>> (t - e).toNat, _, ?_, rfl, ?_⟩
  · rw [shiftToTargetExponent, targetExponent_of_floor hx h.floor_eq hsmall, ← ht, shiftToExponent]
    exact Prod.ext rfl hshift
  · have hvalue : x / 2 ^ (t - e).toNat = x * 2 ^ e / spacing (x * 2 ^ e) := by
      have hpow : (2 : ℝ) ^ t = 2 ^ e * 2 ^ (t - e).toNat := by
        rw [← zpow_natCast, ← zpow_add₀ (by norm_num), hshift]
      have hne : (2 : ℝ) ^ e ≠ 0 := (zpow_pos (by norm_num) _).ne'
      rw [spacing, ← ht, hpow, mul_comm ((2 : ℝ) ^ e), mul_div_mul_right _ _ hne]
    rw [(h.shiftRight _).roundedMantissa, hvalue]

/-- Cutting a number down to 53 digits gives its nearest float. -/
theorem roundWithAccuracy_of_holds (sign : Sign) {x : ℝ} {m : ℕ} {e : ℤ} {accuracy : Accuracy}
    (hx : 0 < x) (h : Holds (.ofMantissaAndAccuracy m accuracy) x)
    (hsmall : 0 < m ∨ e ≤ -1022) (he : e ≤ spacingExponent (x * 2 ^ e)) :
    StandsFor (roundWithAccuracy Format.binary64 sign m e accuracy)
      (nearest (sign.apply 1 * (x * 2 ^ e))) := by
  set y := x * 2 ^ e with hy
  have hpos : 0 < y := mul_pos hx (zpow_pos (by norm_num) _)
  have hmin : -1074 ≤ spacingExponent y := le_max_right _ _
  obtain ⟨em, n, hfirst, hn, hround⟩ := shiftToTargetExponent_spec hx h hsmall he
  obtain ⟨hle, hnormal⟩ := roundEven_div_spacing hpos
  rw [← hy] at hfirst hround
  rw [hround] at hle hnormal
  have hvalue : nearest (sign.apply 1 * y) = sign.apply n * 2 ^ spacingExponent y := by
    have habs : nearest y = n * 2 ^ spacingExponent y := by
      rw [nearest, hround, Int.cast_natCast, spacing]
    cases sign with
    | positive => simpa [Sign.apply] using habs
    | negative =>
      have hneg := nearest_neg y
      rw [habs] at hneg
      simpa [Sign.apply] using hneg
  rw [hvalue]
  simp only [roundWithAccuracy, hfirst, hn]
  rcases (show n ≤ 2 ^ 53 by exact_mod_cast hle).lt_or_eq with hlt | rfl
  · -- no carry: the second shift does nothing
    simp only [shiftToTargetExponent_of_lt hlt hmin]
    split_ifs with hzero
    · have hspec := StandsFor.zero sign
      subst hzero
      cases sign <;> simpa [Sign.apply] using hspec
    · exact ⟨⟨hlt, hmin, by exact_mod_cast hnormal⟩, rfl, rfl⟩
  · -- a carry: the second shift drops the last digit and raises the exponent
    simp only [shiftToTargetExponent_carry hmin]
    rw [dif_neg (by norm_num)]
    refine ⟨⟨by norm_num, by omega, .inl le_rfl⟩, rfl, EReal.coe_eq_coe_iff.mpr ?_⟩
    rw [scaled, zpow_add₀ (by norm_num)]
    cases sign <;> norm_num [Sign.apply] <;> ring

theorem roundWithAccuracy_spec (sign : Sign) {m : ℕ} {e : ℤ} (hm : 0 < m)
    (he : e ≤ spacingExponent ((m : ℝ) * 2 ^ e)) :
    StandsFor (roundWithAccuracy Format.binary64 sign m e .exact)
      (nearest (sign.apply m * 2 ^ e)) := by
  have hspec := roundWithAccuracy_of_holds sign (by exact_mod_cast hm) (holds_exact m)
    (.inl hm) he
  cases sign <;> simpa [Sign.apply] using hspec

/-- Lowering the exponent keeps the number. -/
theorem decreaseExponent_spec (m : ℕ) (e t : ℤ) :
    ((decreaseExponent m e t).1 : ℝ) * 2 ^ (decreaseExponent m e t).2 = m * 2 ^ e ∧
      (decreaseExponent m e t).2 ≤ t ∧ (0 < m → 0 < (decreaseExponent m e t).1) := by
  have hpow : (2 : ℝ) ^ e = 2 ^ (e - t).toNat * 2 ^ (e - (e - t).toNat) := by
    rw [← zpow_natCast, ← zpow_add₀ (by norm_num)]
    congr 1
    omega
  simp only [decreaseExponent, Nat.shiftLeft_eq]
  refine ⟨?_, by omega, fun hm => by positivity⟩
  rw [hpow]
  push_cast
  ring

theorem round_spec (sign : Sign) {m : ℕ} (hm : 0 < m) (e : ℤ) :
    StandsFor (UnpackedFloat.round Format.binary64 sign m e) (nearest (sign.apply m * 2 ^ e)) := by
  obtain ⟨hvalue, hle, hpos⟩ := decreaseExponent_spec m e (spacingExponent ((m : ℝ) * 2 ^ e))
  rw [UnpackedFloat.round, targetExponent_eq hm]
  generalize decreaseExponent m e _ = pair at *
  obtain ⟨m', e'⟩ := pair
  rw [← hvalue] at hle
  have hspec := roundWithAccuracy_spec sign (hpos hm) hle
  cases sign <;> simpa [Sign.apply, hvalue] using hspec

/-- Rounding a signed integer at any exponent gives the nearest float. -/
theorem normalize_spec (m e : ℤ) (sign : Sign) :
    StandsFor (UnpackedFloat.normalize Format.binary64 m e sign) (nearest (m * 2 ^ e)) := by
  rcases lt_trichotomy m 0 with hm | rfl | hm
  · obtain ⟨k, rfl⟩ : ∃ k : ℕ, m = -k := ⟨(-m).toNat, by omega⟩
    have hspec := round_spec .negative (m := k) (by omega) e
    rw [UnpackedFloat.normalize, compare_lt_iff_lt.mpr hm]
    simpa [Sign.apply] using hspec
  · have hspec := StandsFor.zero sign
    rw [UnpackedFloat.normalize, compare_eq_iff_eq.mpr rfl]
    simpa using hspec
  · obtain ⟨k, rfl⟩ : ∃ k : ℕ, m = k := ⟨m.toNat, by omega⟩
    have hspec := round_spec .positive (m := k) (by omega) e
    rw [UnpackedFloat.normalize, compare_gt_iff_gt.mpr hm]
    simpa [Sign.apply] using hspec

end NewsFeed.Binary64
