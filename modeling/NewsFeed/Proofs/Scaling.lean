/-
Floats multiplied by a power of two.

Multiplying by a power of two moves the exponent of a number and leaves its digits alone.  From
`leastNormal` on the grid of the floats moves along, so that rounding does too; below it the grid
stands still, and digits are lost that were not lost before.  Numbers are `InRange` if they are not
in the way of this at either end.

`IsScaled k x y` says that `y` is `x` multiplied by `2^k`.  Products and sums of scaled floats are
scaled as long as the exact results are in range, and weights that are scaled make the same draws.

* `rounded_boost` — in range, rounding commutes with a power of two;
* `number_mul` — the product of any two floats is the exact one, rounded;
* `IsScaled.mul`, `IsScaled.add` — products and sums of scaled floats;
* `Lottery.winner_of_isScaled` — scaled weights have the same winner.

Design notes: whether a product is in range is asked of the exact product.  Asked of the product as
rounded it would not be enough, since a product can be rounded up to `leastNormal` or down to 0.
-/
import NewsFeed.Proofs.Picks

namespace NewsFeed.Binary64

open Float.Model (Format UnpackedFloat)
open Float.Model.UnpackedFloat (Sign)

/-! ### Rounding -/

/-- The least positive float with all 53 digits. -/
noncomputable def leastNormal : ℝ :=
  scaled 1 (-1022)

theorem leastNormal_eq : leastNormal = 2 ^ (-1022 : ℤ) :=
  one_mul _

theorem leastNormal_pos : 0 < leastNormal :=
  scaled_pos one_pos _

theorem log_abs_add_le {x : ℝ} (hx : x ≠ 0) (k : ℤ) :
    Int.log 2 |x| + k ≤ Int.log 2 |x * 2 ^ k| := by
  have hpow : (0 : ℝ) < 2 ^ k := zpow_pos (by norm_num) _
  have hpos : 0 < |x| := abs_pos.mpr hx
  rw [abs_mul, abs_of_pos hpow]
  refine (Int.zpow_le_iff_le_log (b := 2) (by norm_num) (mul_pos hpos hpow)).mp ?_
  push_cast
  rw [zpow_add₀ (by norm_num)]
  exact mul_le_mul_of_nonneg_right (Int.zpow_log_le_self (b := 2) (by norm_num) hpos) hpow.le

/-- Multiplying by a power of two moves the leading place. -/
theorem log_abs_mul_zpow {x : ℝ} (hx : x ≠ 0) (k : ℤ) :
    Int.log 2 |x * 2 ^ k| = Int.log 2 |x| + k := by
  have hpow : (2 : ℝ) ^ k ≠ 0 := (zpow_pos (by norm_num) _).ne'
  have hback := log_abs_add_le (mul_ne_zero hx hpow) (-k)
  rw [mul_assoc, ← zpow_add₀ (by norm_num), add_neg_cancel, zpow_zero, mul_one] at hback
  have hforth := log_abs_add_le hx k
  omega

/-- From `leastNormal` on, the grid has 52 places below the leading one. -/
theorem spacingExponent_of_leastNormal_le {x : ℝ} (h : leastNormal ≤ |x|) :
    spacingExponent x = Int.log 2 |x| - 52 := by
  have hlog : (-1022 : ℤ) ≤ Int.log 2 |x| := by
    refine (Int.zpow_le_iff_le_log (b := 2) (by norm_num) (leastNormal_pos.trans_le h)).mp ?_
    rw [leastNormal_eq] at h
    exact_mod_cast h
  rw [spacingExponent]
  omega

/-- Rounding commutes with a power of two that leaves a number above `leastNormal`. -/
theorem nearest_mul_two_zpow {x : ℝ} {k : ℤ} (h : leastNormal ≤ |x|)
    (h' : leastNormal ≤ |x * 2 ^ k|) : nearest (x * 2 ^ k) = nearest x * 2 ^ k := by
  have hne : x ≠ 0 := abs_pos.mp (leastNormal_pos.trans_le h)
  have hspacing : spacing (x * 2 ^ k) = spacing x * 2 ^ k := by
    rw [spacing, spacing, spacingExponent_of_leastNormal_le h, spacingExponent_of_leastNormal_le h',
      log_abs_mul_zpow hne, ← zpow_add₀ (by norm_num)]
    congr 1
    ring
  rw [nearest, nearest, hspacing, mul_div_mul_right _ _ (zpow_pos (by norm_num) _).ne', mul_assoc]

/-- The number multiplied by `2^k`. -/
noncomputable def boost (k : ℤ) (x : EReal) : EReal :=
  x * (scaled 1 k : EReal)

theorem boost_eq (k : ℤ) (x : EReal) : boost k x = x * ((2 ^ k : ℝ) : EReal) := by
  rw [boost, scaled, one_mul]

section

variable (k : ℤ)

theorem boost_coe (x : ℝ) : boost k x = (x * 2 ^ k : ℝ) :=
  (boost_eq k x).trans (EReal.coe_mul _ _).symm

@[simp] theorem boost_zero : boost k 0 = 0 :=
  zero_mul _

@[simp] theorem boost_top : boost k ⊤ = ⊤ :=
  EReal.top_mul_coe_of_pos (scaled_pos one_pos k)

@[simp] theorem boost_bot : boost k ⊥ = ⊥ :=
  EReal.bot_mul_coe_of_pos (scaled_pos one_pos k)

theorem boost_mul (j : ℤ) (x y : EReal) : boost (j + k) (x * y) = boost j x * boost k y := by
  rw [boost_eq, boost_eq, boost_eq, zpow_add₀ (by norm_num), EReal.coe_mul, mul_mul_mul_comm]

theorem boost_add {x y : EReal} (hx : 0 ≤ x) (hy : 0 ≤ y) :
    boost k (x + y) = boost k x + boost k y :=
  EReal.right_distrib_of_nonneg hx hy

theorem boost_strictMono : StrictMono (boost k) := by
  have hpos : (0 : ℝ) < 2 ^ k := zpow_pos (by norm_num) _
  intro x y h
  induction x with
  | bot =>
    induction y with
    | bot => exact absurd h (lt_irrefl _)
    | top => simp
    | coe y => rw [boost_bot, boost_coe]; exact EReal.bot_lt_coe _
  | top => exact absurd h not_top_lt
  | coe x =>
    induction y with
    | bot => exact absurd h not_lt_bot
    | top => rw [boost_top, boost_coe]; exact EReal.coe_lt_top _
    | coe y =>
      rw [boost_coe, boost_coe, EReal.coe_lt_coe_iff]
      exact mul_lt_mul_of_pos_right (EReal.coe_lt_coe_iff.mp h) hpos

theorem boost_eq_zero {x : EReal} : boost k x = 0 ↔ x = 0 := by
  rw [← (boost_strictMono k).injective.eq_iff (a := x), boost_zero]

theorem boost_eq_top {x : EReal} : boost k x = ⊤ ↔ x = ⊤ := by
  rw [← (boost_strictMono k).injective.eq_iff (a := x), boost_top]

theorem boost_eq_bot {x : EReal} : boost k x = ⊥ ↔ x = ⊥ := by
  rw [← (boost_strictMono k).injective.eq_iff (a := x), boost_bot]

end

/-- Whether a number is 0 or no smaller than `leastNormal`, up to sign. -/
def Sizeable (x : EReal) : Prop :=
  x = 0 ∨ (leastNormal : EReal) ≤ x ∨ x ≤ ((-leastNormal : ℝ) : EReal)

/-- Whether rounding makes an infinity of a number that is none. -/
def Overflows (x : EReal) : Prop :=
  x ≠ ⊤ ∧ x ≠ ⊥ ∧ (rounded x = ⊤ ∨ rounded x = ⊥)

/-- Whether a number is neither too small nor too large to be rounded to 53 digits. -/
structure InRange (x : EReal) : Prop where
  sizeable : Sizeable x
  fits : ¬ Overflows x

@[simp] theorem rounded_bot : rounded ⊥ = ⊥ := rfl

theorem Sizeable.leastNormal_le_abs {x : ℝ} (h : Sizeable (x : EReal)) (hx : x ≠ 0) :
    leastNormal ≤ |x| := by
  rcases h with hzero | hpos | hneg
  · exact absurd (EReal.coe_eq_zero.mp hzero) hx
  · exact (EReal.coe_le_coe_iff.mp hpos).trans (le_abs_self x)
  · exact le_abs'.mpr (.inl (EReal.coe_le_coe_iff.mp hneg))

theorem rounded_leastNormal : rounded (leastNormal : EReal) = leastNormal ∧
    rounded ((-leastNormal : ℝ) : EReal) = ((-leastNormal : ℝ) : EReal) := by
  have hgrid : nearest leastNormal = leastNormal := by
    have h := nearest_of_grid (n := 1) (e := -1022) (by norm_num) (by norm_num)
    rwa [Int.cast_one, one_mul, ← leastNormal_eq] at h
  have hlimit : |leastNormal| < limit := by
    rw [abs_of_pos leastNormal_pos, leastNormal_eq]
    exact zpow_lt_zpow_right₀ (by norm_num) (by norm_num)
  constructor
  · rw [rounded_coe, hgrid, overflow_of_abs_lt hlimit]
  · rw [rounded_coe, nearest_neg, hgrid, overflow_of_abs_lt ((abs_neg _).trans_lt hlimit)]

/-- A number that is not small is rounded to one that is not. -/
theorem Sizeable.leastNormal_le_rounded {x : EReal} (h : Sizeable x) (hpos : 0 < rounded x) :
    (leastNormal : EReal) ≤ rounded x := by
  rcases h with rfl | hlarge | hnegative
  · rw [rounded_zero] at hpos
    exact absurd hpos (lt_irrefl _)
  · rw [← rounded_leastNormal.1]
    exact rounded_mono hlarge
  · have hneg : x ≤ 0 :=
      hnegative.trans (EReal.coe_nonpos.mpr (neg_nonpos.mpr leastNormal_pos.le))
    have hle := rounded_mono hneg
    rw [rounded_zero] at hle
    exact absurd hpos (not_lt.mpr hle)

theorem rounded_of_not_overflows {x : ℝ} (h : ¬ Overflows (x : EReal)) :
    rounded x = nearest x := by
  rw [rounded_coe]
  have hbounds : rounded x ≠ ⊤ ∧ rounded x ≠ ⊥ :=
    not_or.mp fun hinfinite => h ⟨EReal.coe_ne_top x, EReal.coe_ne_bot x, hinfinite⟩
  rw [rounded_coe] at hbounds
  obtain ⟨htop, hbot⟩ := hbounds
  unfold overflow at htop hbot ⊢
  split_ifs at htop hbot ⊢ <;> first | rfl | exact absurd rfl htop | exact absurd rfl hbot

/-- In range, rounding commutes with a power of two. -/
theorem rounded_boost {x : EReal} {k : ℤ} (h : InRange x) (h' : InRange (boost k x)) :
    rounded (boost k x) = boost k (rounded x) := by
  induction x with
  | bot => simp
  | top => simp
  | coe x =>
    rcases eq_or_ne x 0 with rfl | hne
    · simp
    rw [boost_coe] at h' ⊢
    have hne' : x * 2 ^ k ≠ 0 := mul_ne_zero hne (zpow_pos (by norm_num) _).ne'
    rw [rounded_of_not_overflows h.fits, rounded_of_not_overflows h'.fits, boost_coe,
      nearest_mul_two_zpow (h.sizeable.leastNormal_le_abs hne)
        (h'.sizeable.leastNormal_le_abs hne')]

theorem not_overflows_of_isFinite {x : EReal} {y : Float} (h : number y = rounded x)
    (hfinite : y.isFinite = true) : ¬ Overflows x := by
  obtain ⟨-, htop, hbot⟩ := isFinite_iff.mp hfinite
  rintro ⟨-, -, hinfinite⟩
  rw [← h] at hinfinite
  exact hinfinite.elim htop hbot

/-! ### Products of any floats -/

theorem mul_infinity_comm (u : UnpackedFloat) (sign : Sign) :
    (UnpackedFloat.infinity sign).mul Format.binary64 u =
      u.mul Format.binary64 (.infinity sign) := by
  cases u with
  | notANumber => rfl
  | infinity sign' => cases sign <;> cases sign' <;> rfl
  | zero sign' => rfl
  | finite sign' m e h => cases sign <;> cases sign' <;> rfl

theorem extended_infinity_mul {x : EReal} {sign' : Sign} (sign : Sign)
    (h : 0 < x ∧ sign' = .positive ∨ x < 0 ∧ sign' = .negative) :
    x ≠ 0 ∧ extended (.infinity (sign' * sign)) = x * extended (.infinity sign) := by
  rcases h with ⟨hpos, rfl⟩ | ⟨hneg, rfl⟩
  · refine ⟨hpos.ne', ?_⟩
    cases sign
    case positive => exact (EReal.mul_top_of_pos hpos).symm
    case negative => exact (EReal.mul_bot_of_pos hpos).symm
  · refine ⟨hneg.ne, ?_⟩
    cases sign
    case positive => exact (EReal.mul_top_of_neg hneg).symm
    case negative => exact (EReal.mul_bot_of_neg hneg).symm

/-- A product with an infinity is an infinity, but no number for a zero or no number. -/
theorem mul_infinity_cases (u : UnpackedFloat) (sign : Sign) :
    u.mul Format.binary64 (.infinity sign) = .notANumber ∧ extended u = 0 ∨
    ∃ sign', u.mul Format.binary64 (.infinity sign) = .infinity sign' ∧ extended u ≠ 0 ∧
      extended (.infinity sign') = extended u * extended (.infinity sign) := by
  cases u with
  | notANumber => exact .inl ⟨rfl, rfl⟩
  | infinity sign' =>
    refine .inr ⟨_, rfl, extended_infinity_mul sign ?_⟩
    cases sign' with
    | positive => exact .inl ⟨EReal.zero_lt_top, rfl⟩
    | negative => exact .inr ⟨EReal.bot_lt_zero, rfl⟩
  | zero sign' => exact .inl ⟨rfl, rfl⟩
  | finite sign' m e h =>
    refine .inr ⟨_, rfl, extended_infinity_mul sign ?_⟩
    cases sign' with
    | positive => exact .inl ⟨extended_positive m e h, rfl⟩
    | negative => exact .inr ⟨extended_negative m e h, rfl⟩

theorem exists_infinity_of_number {x : Float} (h : number x = ⊤ ∨ number x = ⊥) :
    ∃ sign, x.toModel.unpack = .infinity sign := by
  unfold number at h
  cases hu : x.toModel.unpack with
  | notANumber => simp [hu, extended] at h
  | infinity sign => exact ⟨sign, rfl⟩
  | zero sign => simp [hu, extended] at h
  | finite sign m e hm => simp [hu, extended] at h

/-- A product with an infinite float is the exact one, and a NaN for a zero or a NaN. -/
theorem mul_spec_of_infinite {x y : Float} (h : number y = ⊤ ∨ number y = ⊥) :
    (number (x * y) = number x * number y ∧ ((x * y).isNaN = true ↔ number x = 0)) ∧
      number (y * x) = number y * number x ∧ ((y * x).isNaN = true ↔ number x = 0) := by
  obtain ⟨sign, hy⟩ := exists_infinity_of_number h
  have hmodel :
      x * y = .ofModel (.pack (x.toModel.unpack.mul Format.binary64 (.infinity sign))) := by
    rw [← hy]
    rfl
  have hmodel' : y * x =
      .ofModel (.pack ((UnpackedFloat.infinity sign).mul Format.binary64 x.toModel.unpack)) := by
    rw [← hy]
    rfl
  rw [mul_infinity_comm, ← hmodel] at hmodel'
  rw [hmodel', mul_comm (number y)]
  -- the factors can be swapped, so one half is enough
  refine and_self_iff.mpr ?_
  have hnumber : number y = extended (.infinity sign) := by rw [number, hy]
  have hnumber' : number x = extended x.toModel.unpack := rfl
  rw [hmodel, hnumber, hnumber']
  rcases mul_infinity_cases x.toModel.unpack sign with ⟨hnan, hzero⟩ | ⟨sign', hinf, hne, hvalue⟩
  · rw [hnan, hzero, zero_mul]
    exact ⟨rfl, iff_of_true rfl rfl⟩
  · rw [hinf, ← hvalue]
    refine ⟨by cases sign' <;> rfl, iff_of_false (fun htrue => ?_) hne⟩
    cases sign' <;> cases htrue

theorem number_eq_zero_of_isNaN {x : Float} (h : x.isNaN = true) : number x = 0 := by
  have hmodel : x.toModel.unpack.isNaN = true := h
  unfold number
  cases hu : x.toModel.unpack <;> rw [hu] at hmodel <;> first | rfl | cases hmodel

/-- A float is finite, infinite or a NaN. -/
theorem isFinite_or_infinite_or_isNaN (x : Float) :
    x.isFinite = true ∨ (number x = ⊤ ∨ number x = ⊥) ∨ x.isNaN = true := by
  by_cases hfinite : x.isFinite = true
  · exact .inl hfinite
  right
  by_cases hnan : x.isNaN = true
  · exact .inr hnan
  left
  by_contra hinfinite
  obtain ⟨htop, hbot⟩ := not_or.mp hinfinite
  exact hfinite (isFinite_iff.mpr ⟨by simpa using hnan, htop, hbot⟩)

theorem eq_notANumber_of_isNaN {u : UnpackedFloat} (h : u.isNaN = true) : u = .notANumber := by
  cases u <;> first | rfl | cases h

/-- An operation that passes a NaN on, whichever operand it is. -/
theorem isNaN_of_operand (op : UnpackedFloat → UnpackedFloat → UnpackedFloat)
    (hleft : ∀ v, op .notANumber v = .notANumber) (hright : ∀ u, op u .notANumber = .notANumber)
    {x y : Float} (h : x.isNaN = true ∨ y.isNaN = true) :
    (Float.ofModel (.pack (op x.toModel.unpack y.toModel.unpack))).isNaN = true := by
  have hop : op x.toModel.unpack y.toModel.unpack = .notANumber := by
    rcases h with h | h
    · rw [eq_notANumber_of_isNaN (show x.toModel.unpack.isNaN = true from h), hleft]
    · rw [eq_notANumber_of_isNaN (show y.toModel.unpack.isNaN = true from h), hright]
  rw [hop]
  rfl

theorem isNaN_mul_of_isNaN {x y : Float} (h : x.isNaN = true ∨ y.isNaN = true) :
    (x * y).isNaN = true :=
  isNaN_of_operand (UnpackedFloat.mul Format.binary64) (fun v => by cases v <;> rfl)
    (fun u => by cases u <;> rfl) h

theorem rounded_mul_of_infinite {x y : EReal} (h : y = ⊤ ∨ y = ⊥) : rounded (x * y) = x * y := by
  rcases h with rfl | rfl <;> rcases lt_trichotomy x 0 with hx | rfl | hx
  · rw [EReal.mul_top_of_neg hx, rounded_bot]
  · rw [zero_mul, rounded_zero]
  · rw [EReal.mul_top_of_pos hx, rounded_top]
  · rw [EReal.mul_bot_of_neg hx, rounded_top]
  · rw [zero_mul, rounded_zero]
  · rw [EReal.mul_bot_of_pos hx, rounded_bot]

/-- The product of any two floats is the exact one, rounded. -/
theorem number_mul (x y : Float) : number (x * y) = rounded (number x * number y) := by
  rcases isFinite_or_infinite_or_isNaN y with hy | hy | hy
  · rcases isFinite_or_infinite_or_isNaN x with hx | hx | hx
    · exact (mul_spec hx hy).2
    · rw [(mul_spec_of_infinite hx).2.1, mul_comm, rounded_mul_of_infinite hx]
    · have hzero := number_eq_zero_of_isNaN hx
      rw [number_mul_eq_zero (.inl hzero), hzero, zero_mul, rounded_zero]
  · rw [(mul_spec_of_infinite hy).1.1, rounded_mul_of_infinite hy]
  · have hzero := number_eq_zero_of_isNaN hy
    rw [number_mul_eq_zero (.inr hzero), hzero, mul_zero, rounded_zero]

/-- The product of two floats is a NaN if one of them is, or for an infinity and a zero. -/
theorem isNaN_mul_iff {x y : Float} :
    (x * y).isNaN = true ↔ x.isNaN = true ∨ y.isNaN = true ∨
      number x = 0 ∧ (number y = ⊤ ∨ number y = ⊥) ∨
      (number x = ⊤ ∨ number x = ⊥) ∧ number y = 0 := by
  constructor
  · intro h
    rcases isFinite_or_infinite_or_isNaN y with hy | hy | hy
    · rcases isFinite_or_infinite_or_isNaN x with hx | hx | hx
      · rw [(mul_spec hx hy).1] at h
        cases h
      · exact .inr (.inr (.inr ⟨hx, (mul_spec_of_infinite hx).2.2.mp h⟩))
      · exact .inl hx
    · exact .inr (.inr (.inl ⟨(mul_spec_of_infinite hy).1.2.mp h, hy⟩))
    · exact .inr (.inl hy)
  · rintro (hx | hy | ⟨hzero, hy⟩ | ⟨hx, hzero⟩)
    · exact isNaN_mul_of_isNaN (.inl hx)
    · exact isNaN_mul_of_isNaN (.inr hy)
    · exact (mul_spec_of_infinite hy).1.2.mpr hzero
    · exact (mul_spec_of_infinite hx).2.2.mpr hzero

/-! ### Scaled floats -/

/-- Whether `y` is `x` multiplied by `2^k`. -/
structure IsScaled (k : ℤ) (x y : Float) : Prop where
  isNaN : y.isNaN = x.isNaN
  number : number y = boost k (number x)

namespace IsScaled

variable {j k : ℤ} {x x' y y' : Float}

protected theorem refl (x : Float) : IsScaled 0 x x :=
  ⟨rfl, by simp [boost_eq]⟩

theorem zero (k : ℤ) : IsScaled k 0.0 0.0 :=
  ⟨rfl, by rw [number_zero, boost_zero]⟩

protected theorem symm (h : IsScaled k x y) : IsScaled (-k) y x := by
  refine ⟨h.isNaN.symm, ?_⟩
  rw [h.number, boost_eq, boost_eq, mul_assoc, ← EReal.coe_mul, ← zpow_add₀ (by norm_num),
    add_neg_cancel, zpow_zero, EReal.coe_one, mul_one]

theorem le_iff (hx : IsScaled k x x') (hy : IsScaled k y y') : x' ≤ y' ↔ x ≤ y := by
  rw [Binary64.le_iff, Binary64.le_iff, hx.isNaN, hy.isNaN, hx.number, hy.number,
    (boost_strictMono k).le_iff_le]

theorem lt_iff (hx : IsScaled k x x') (hy : IsScaled k y y') : x' < y' ↔ x < y := by
  rw [Binary64.lt_iff, Binary64.lt_iff, hx.isNaN, hy.isNaN, hx.number, hy.number,
    (boost_strictMono k).lt_iff_lt]

theorem beq_zero_iff (hx : IsScaled k x x') : (x' == 0.0) = true ↔ (x == 0.0) = true := by
  rw [beq_iff, beq_iff, hx.isNaN, hx.number, number_zero, boost_eq_zero]

theorem isFinite_iff (hx : IsScaled k x x') : x'.isFinite = true ↔ x.isFinite = true := by
  rw [Binary64.isFinite_iff, Binary64.isFinite_iff, hx.isNaN, hx.number, Ne, Ne, boost_eq_top,
    boost_eq_bot]

/-- The product of scaled floats is scaled by both powers. -/
protected theorem mul (hx : IsScaled j x x') (hy : IsScaled k y y')
    (h : InRange (Binary64.number x * Binary64.number y))
    (h' : InRange (Binary64.number x' * Binary64.number y')) :
    IsScaled (j + k) (x * y) (x' * y') where
  isNaN := by
    rw [Bool.eq_iff_iff, isNaN_mul_iff, isNaN_mul_iff, hx.isNaN, hy.isNaN, hx.number, hy.number,
      boost_eq_zero, boost_eq_zero, boost_eq_top, boost_eq_top, boost_eq_bot, boost_eq_bot]
  number := by
    rw [hx.number, hy.number, ← boost_mul] at h'
    rw [number_mul, number_mul, hx.number, hy.number, ← boost_mul, rounded_boost h h']

/-- The sum of floats that are scaled alike, and not negative, is scaled like them. -/
protected theorem add (hx : IsScaled k x x') (hy : IsScaled k y y') (hx0 : 0.0 ≤ x)
    (hy0 : 0.0 ≤ y) (h : InRange (Binary64.number x + Binary64.number y))
    (h' : InRange (Binary64.number x' + Binary64.number y')) :
    IsScaled k (x + y) (x' + y') := by
  obtain ⟨hnan, hnumber⟩ := add_spec_of_nonneg hx0 hy0
  obtain ⟨hnan', hnumber'⟩ :=
    add_spec_of_nonneg (((zero k).le_iff hx).mpr hx0) (((zero k).le_iff hy).mpr hy0)
  have hboost := boost_add k (nonneg_iff.mp hx0).2 (nonneg_iff.mp hy0).2
  rw [← hx.number, ← hy.number] at hboost
  rw [← hboost] at h' hnumber'
  exact ⟨hnan'.trans hnan.symm, by rw [hnumber', hnumber, rounded_boost h h']⟩

end IsScaled

/-! ### The next smaller point of the grid -/

/-- One step of the grid down from a float with all 53 digits is a float. -/
theorem nearest_sub_spacing {x : ℝ} (h : leastNormal ≤ x) (hx : nearest x = x) :
    nearest (x - spacing x) = x - spacing x := by
  have hpos : 0 < x := leastNormal_pos.trans_le h
  obtain ⟨hle, -⟩ := roundEven_div_spacing hpos
  set n := roundEven (x / spacing x) with hn
  have hvalue : x = n * spacing x := hx.symm
  have hn0 : 0 < n := by
    rw [hvalue] at hpos
    exact_mod_cast (pos_iff_pos_of_mul_pos hpos).mpr (spacing_pos x)
  have hgrid : x - spacing x = ((n - 1 : ℤ) : ℝ) * 2 ^ spacingExponent x := by
    rw [← spacing]
    push_cast
    rw [sub_mul, one_mul, ← hvalue]
  rw [hgrid]
  refine nearest_of_grid ?_ (le_max_right _ _)
  rw [abs_of_nonneg (by omega)]
  omega

/-- The step of the grid is at most the part `2^-52` of a number with all 53 digits. -/
theorem spacing_le_mul {x : ℝ} (h : leastNormal ≤ x) : spacing x ≤ x * 2 ^ (-52 : ℤ) := by
  have hpos : 0 < x := leastNormal_pos.trans_le h
  have hlog : (2 : ℝ) ^ Int.log 2 x ≤ x := Int.zpow_log_le_self (b := 2) (by norm_num) hpos
  have habs : |x| = x := abs_of_pos hpos
  rw [spacing, spacingExponent_of_leastNormal_le (habs.symm ▸ h), habs, sub_eq_add_neg,
    zpow_add₀ (by norm_num)]
  exact mul_le_mul_of_nonneg_right hlog (by positivity)

/-- The largest fraction of a float with all 53 digits is rounded to something smaller. -/
theorem mul_largest_lt {x : Float} (hfinite : x.isFinite = true)
    (h : (leastNormal : EReal) ≤ number x) :
    number (x * Float.ofBits 0x3feffffffffffffe) < number x := by
  obtain ⟨r, hr⟩ := exists_number_eq hfinite
  obtain ⟨hnearest, hlimit⟩ := nearest_eq_of_number hfinite hr
  rw [hr, EReal.coe_le_coe_iff] at h
  have hspacing := spacing_pos r
  -- the factor is `1 - 2^-52`, and for a normal number the loss is at least one spacing
  have hfraction := spacing_le_mul h
  -- one spacing below a finite float there is another one
  have hbelow : |r - spacing r| < limit := by
    have hpos : 0 < r := leastNormal_pos.trans_le h
    rw [abs_of_pos hpos] at hlimit
    refine abs_lt.mpr ⟨?_, by linarith⟩
    have hsmall : r * 2 ^ (-52 : ℤ) ≤ r := mul_le_of_le_one_right hpos.le (by norm_num)
    linarith [limit_pos]
  calc number (x * Float.ofBits 0x3feffffffffffffe)
      = rounded ((r * ((2 ^ 52 - 1) * 2 ^ (-52 : ℤ)) : ℝ) : EReal) := by
        rw [number_mul, hr, number_largest.2, EReal.coe_mul r]
    _ ≤ rounded ((r - spacing r : ℝ) : EReal) := by
        refine rounded_mono (EReal.coe_le_coe_iff.mpr ?_)
        have hone : (2 : ℝ) ^ 52 * 2 ^ (-52 : ℤ) = 1 := by norm_num
        calc r * ((2 ^ 52 - 1) * 2 ^ (-52 : ℤ)) = r - r * 2 ^ (-52 : ℤ) := by
              rw [sub_mul, hone, one_mul, mul_sub, mul_one]
          _ ≤ r - spacing r := by linarith
    _ = ((r - spacing r : ℝ) : EReal) := by
        rw [rounded_coe, nearest_sub_spacing h hnearest, overflow_of_abs_lt hbelow]
    _ < number x := by
        rw [hr, EReal.coe_lt_coe_iff]
        linarith

/-! ### Floats that are not small -/

/-- The least positive float with all 53 digits. -/
def leastNormalFloat : Float :=
  .ofBits 0x0010000000000000

/-- The least float of which every fraction but 0 has all 53 digits. -/
def leastPointed : Float :=
  .ofBits 0x0350000000000000

/-- A pattern with nothing but an exponent is a power of two. -/
theorem number_ofBits_exponent {word : UInt64} {e : ℕ} (h : word.toNat = e * 2 ^ 52)
    (hpos : 0 < e) (hlt : e < 2047) :
    number (.ofBits word) = ((2 ^ (e - 1023 : ℤ) : ℝ) : EReal) := by
  rw [number_ofBits (by omega), EReal.coe_eq_coe_iff, magnitude, if_neg (by omega), h,
    Nat.mul_mod_left, add_zero, Nat.mul_div_cancel _ (by norm_num), scaled, Nat.cast_pow,
    Nat.cast_ofNat, ← zpow_natCast, ← zpow_add₀ (by norm_num)]
  congr 1
  push_cast
  ring

theorem number_leastNormalFloat : number leastNormalFloat = leastNormal := by
  rw [leastNormal_eq]
  exact number_ofBits_exponent (e := 1) (by rfl) (by norm_num) (by norm_num)

theorem number_leastPointed : number leastPointed = ((2 ^ (-970 : ℤ) : ℝ) : EReal) :=
  number_ofBits_exponent (e := 53) (by rfl) (by norm_num) (by norm_num)

theorem leastPointed_nonneg : 0.0 ≤ leastPointed := by
  decide +kernel

/-- A float that is not small is in range. -/
theorem inRange_number {x : Float} (h : (x == 0.0) = true ∨ leastNormalFloat ≤ x) :
    InRange (number x) := by
  constructor
  · rcases h with hzero | hlarge
    · exact .inl ((beq_iff.mp hzero).2.2.trans number_zero)
    · refine .inr (.inl ?_)
      rw [← number_leastNormalFloat]
      exact (le_iff.mp hlarge).2.2
  · rintro ⟨htop, hbot, hinfinite⟩
    rw [rounded_number] at hinfinite
    exact hinfinite.elim htop hbot

/-- A product is in range if what it is rounded to is more than the least normal float, or if it is
exactly 0. -/
theorem inRange_mul {x y : Float} (h : (x == 0.0) = true ∨ leastNormalFloat < x * y)
    (hfinite : (x * y).isFinite = true) : InRange (number x * number y) := by
  refine ⟨?_, not_overflows_of_isFinite (number_mul x y) hfinite⟩
  rcases h with hzero | hlarge
  · left
    rw [(beq_iff.mp hzero).2.2, number_zero, zero_mul]
  · refine .inr (.inl ?_)
    by_contra hsmall
    have hle := rounded_mono (not_le.mp hsmall).le
    rw [rounded_leastNormal.1, ← number_mul, ← number_leastNormalFloat] at hle
    exact absurd (lt_iff.mp hlarge).2.2 (not_lt.mpr hle)

/-- Whether a number is in range, or is rounded to something that is. -/
structure RoundsInRange (x : EReal) : Prop where
  sizeable : Sizeable (rounded x)
  fits : ¬ Overflows x

theorem InRange.roundsInRange {x : EReal} (h : InRange x) : RoundsInRange x := by
  refine ⟨?_, h.fits⟩
  rcases h.sizeable with rfl | hlarge | hnegative
  · exact .inl rounded_zero
  · have hle := rounded_mono hlarge
    rw [rounded_leastNormal.1] at hle
    exact .inr (.inl hle)
  · have hle := rounded_mono hnegative
    rw [rounded_leastNormal.2] at hle
    exact .inr (.inr hle)

theorem roundsInRange_mul {x y : Float}
    (h : (x * y == 0.0) = true ∨ leastNormalFloat ≤ x * y) (hfinite : (x * y).isFinite = true) :
    RoundsInRange (number x * number y) := by
  refine ⟨?_, not_overflows_of_isFinite (number_mul x y) hfinite⟩
  rw [← number_mul]
  exact (inRange_number h).sizeable

/-- Adding to the exponent of a pattern multiplies by a power of two. -/
theorem isScaled_ofBits (word word' : UInt64) {k : ℕ} (hnormal : 2 ^ 52 ≤ word.toNat)
    (h : word'.toNat = word.toNat + k * 2 ^ 52) (hlt : word'.toNat < 2047 * 2 ^ 52) :
    IsScaled k (.ofBits word) (.ofBits word') := by
  have hlt' : word.toNat < 2047 * 2 ^ 52 := by omega
  refine ⟨?_, ?_⟩
  · rw [isNaN_of_isFinite (isFinite_ofBits hlt), isNaN_of_isFinite (isFinite_ofBits hlt')]
  · have hmod : word'.toNat % 2 ^ 52 = word.toNat % 2 ^ 52 := by omega
    have hdiv : word'.toNat / 2 ^ 52 = word.toNat / 2 ^ 52 + k := by omega
    rw [number_ofBits hlt, number_ofBits hlt', boost_coe, magnitude, magnitude, if_neg (by omega),
      if_neg (by omega), hmod, hdiv, scaled, scaled, mul_assoc, ← zpow_add₀ (by norm_num)]
    push_cast
    ring_nf

end NewsFeed.Binary64

namespace NewsFeed.Lottery

open Binary64

/-! ### Scaled weights -/

/-- What is asked of the numbers that a draw computes, each before it is rounded: the running sums,
and the point that the word names. -/
structure Meets (fits : EReal → Prop) (weights : List Float) (word : UInt64) : Prop where
  sums : ∀ pair ∈ (runningSums weights).zip weights.tail, fits (number pair.1 + number pair.2)
  point : ∀ lottery, ofWeights weights = .ok lottery →
    fits (number (fraction52 word) * number lottery.scale)

variable {k : ℤ} {weights weights' : List Float} {lottery lottery' : Lottery} {word : UInt64}

/-- The total of floats with all 53 digits is used as it is. -/
theorem scale_eq_total (hfinite : lottery.total.isFinite = true)
    (h : (leastNormal : EReal) ≤ number lottery.total) : lottery.scale = lottery.total :=
  if_neg fun hle => not_lt_of_ge (le_iff.mp hle).2.2 (mul_largest_lt hfinite h)

theorem length_takeWhile_of_forall₂ {α β : Type} {R : α → β → Prop} {p : α → Bool} {q : β → Bool}
    {items : List α} {items' : List β} (h : List.Forall₂ R items items')
    (hpq : ∀ a b, R a b → q b = p a) :
    (items'.takeWhile q).length = (items.takeWhile p).length := by
  induction h with
  | nil => rfl
  | cons hab _ ih =>
    rw [List.takeWhile_cons, List.takeWhile_cons, hpq _ _ hab]
    split
    · rw [List.length_cons, List.length_cons, ih]
    · rfl

/-- The running sums of scaled weights are scaled. -/
theorem forall₂_go {start start' : Float} {rest rest' : List Float}
    (h : List.Forall₂ (IsScaled k) rest rest') (hscaled : IsScaled k start start')
    (hstart : 0.0 ≤ start) (hrest : ∀ weight ∈ rest, 0.0 ≤ weight)
    (hsums : ∀ pair ∈ (runningSums.go start rest).zip rest,
      InRange (number pair.1 + number pair.2))
    (hsums' : ∀ pair ∈ (runningSums.go start' rest').zip rest',
      InRange (number pair.1 + number pair.2)) :
    List.Forall₂ (IsScaled k) (runningSums.go start rest) (runningSums.go start' rest') ∧
      IsScaled k (rest.foldl (· + ·) start) (rest'.foldl (· + ·) start') := by
  induction h generalizing start start' with
  | nil => exact ⟨.cons hscaled .nil, hscaled⟩
  | @cons weight weight' rest rest' hweight h ih =>
    obtain ⟨hweight0, hrest⟩ := List.forall_mem_cons.mp hrest
    rw [runningSums.go, List.zip_cons_cons] at hsums hsums'
    obtain ⟨hfirst, hsums⟩ := List.forall_mem_cons.mp hsums
    obtain ⟨hfirst', hsums'⟩ := List.forall_mem_cons.mp hsums'
    have hnext := hscaled.add hweight hstart hweight0 hfirst hfirst'
    obtain ⟨hgo, hfold⟩ := ih hnext (Binary64.add_nonneg hstart hweight0) hrest hsums hsums'
    exact ⟨.cons hscaled hgo, hfold⟩

theorem forall₂_dropLast {α β : Type} {R : α → β → Prop} {items : List α} {items' : List β}
    (h : List.Forall₂ R items items') : List.Forall₂ R items.dropLast items'.dropLast := by
  rw [List.dropLast_eq_take, List.dropLast_eq_take, h.length_eq]
  exact List.forall₂_take _ h

theorem forall_mem_of_forall₂ {α β : Type} {R : α → β → Prop} {P : α → Prop} {Q : β → Prop}
    {items : List α} {items' : List β} (h : List.Forall₂ R items items')
    (hall : ∀ a ∈ items, P a) (himp : ∀ a b, R a b → P a → Q b) : ∀ b ∈ items', Q b := by
  induction h with
  | nil => exact fun _ hmem => nomatch hmem
  | cons hab _ ih =>
    obtain ⟨hfirst, hrest⟩ := List.forall_mem_cons.mp hall
    exact List.forall_mem_cons.mpr ⟨himp _ _ hab hfirst, ih hrest⟩

/-- Scaled weights can be drawn from if the weights can. -/
theorem exists_ofWeights_of_isScaled (h : List.Forall₂ (IsScaled k) weights weights')
    (hsums : ∀ pair ∈ (runningSums weights).zip weights.tail,
      InRange (number pair.1 + number pair.2))
    (hsums' : ∀ pair ∈ (runningSums weights').zip weights'.tail,
      InRange (number pair.1 + number pair.2))
    (hok : ofWeights weights = .ok lottery) :
    ∃ lottery', ofWeights weights' = .ok lottery' ∧
      List.Forall₂ (IsScaled k) lottery.bounds lottery'.bounds ∧
      IsScaled k lottery.total lottery'.total := by
  cases h with
  | nil => cases hok
  | @cons first first' rest rest' hfirst h =>
    obtain ⟨hall, hfinite, hnonzero, rfl⟩ := ofWeights_cons_eq_ok.mp hok
    have hrest := fun weight hmem => (hall weight (List.mem_cons_of_mem _ hmem)).2
    obtain ⟨hgo, hfold⟩ := forall₂_go h hfirst (hall first List.mem_cons_self).2 hrest hsums hsums'
    -- a power of two changes no sign and, in range, no finiteness
    have hall' : ∀ weight' ∈ first' :: rest', weight'.isFinite = true ∧ 0.0 ≤ weight' :=
      forall_mem_of_forall₂ (.cons hfirst h) hall fun weight weight' hweight hgood =>
        ⟨hweight.isFinite_iff.mpr hgood.1, ((IsScaled.zero k).le_iff hweight).mpr hgood.2⟩
    exact ⟨_, ofWeights_cons_eq_ok.mpr
      ⟨hall', hfold.isFinite_iff.mpr hfinite, fun hzero => hnonzero (hfold.beq_zero_iff.mp hzero),
        rfl⟩, forall₂_dropLast hgo, hfold⟩

/-- The total is no smaller than the weights. -/
theorem le_total {bound : EReal} (h : ∀ weight ∈ weights, bound ≤ number weight)
    (hok : ofWeights weights = .ok lottery) :
    lottery.total.isFinite = true ∧ bound ≤ number lottery.total := by
  cases weights with
  | nil => cases hok
  | cons first rest =>
    obtain ⟨hall, hfinite, -, rfl⟩ := ofWeights_cons_eq_ok.mp hok
    have hfirst := (hall first List.mem_cons_self).2
    have hle : first ≤ rest.foldl (· + ·) first :=
      foldl_add_le_of_sublist (List.nil_sublist rest)
        (fun weight hmem => (hall weight (List.mem_cons_of_mem _ hmem)).2) hfirst
        (le_refl_of_nonneg hfirst)
    exact ⟨hfinite, (h first List.mem_cons_self).trans (le_iff.mp hle).2.2⟩

/-- Scaled weights have the same winner, or cannot be drawn from either. -/
theorem winner_of_isScaled (h : List.Forall₂ (IsScaled k) weights weights')
    (hleast : ∀ weight ∈ weights, (leastNormal : EReal) ≤ number weight)
    (hleast' : ∀ weight ∈ weights', (leastNormal : EReal) ≤ number weight)
    (hmeets : Meets InRange weights word) (hmeets' : Meets InRange weights' word) :
    (∃ cause cause', ofWeights weights = .error cause ∧ ofWeights weights' = .error cause') ∨
    ∃ lottery lottery', ofWeights weights = .ok lottery ∧ ofWeights weights' = .ok lottery' ∧
      lottery'.winner word = lottery.winner word := by
  cases hok : ofWeights weights with
  | error cause =>
    cases hok' : ofWeights weights' with
    | error cause' => exact .inl ⟨cause, cause', rfl, rfl⟩
    | ok lottery' =>
      -- the weights are the scaled ones, scaled back
      have hback : List.Forall₂ (IsScaled (-k)) weights' weights :=
        (h.imp fun _ _ hweight => hweight.symm).flip
      obtain ⟨lottery, hlottery, -⟩ :=
        exists_ofWeights_of_isScaled hback hmeets'.sums hmeets.sums hok'
      rw [hok] at hlottery
      cases hlottery
  | ok lottery =>
    obtain ⟨lottery', hok', hbounds, htotal⟩ :=
      exists_ofWeights_of_isScaled h hmeets.sums hmeets'.sums hok
    obtain ⟨hfinite, hlarge⟩ := le_total hleast hok
    obtain ⟨hfinite', hlarge'⟩ := le_total hleast' hok'
    have hscale : IsScaled k lottery.scale lottery'.scale := by
      rw [scale_eq_total hfinite hlarge, scale_eq_total hfinite' hlarge']
      exact htotal
    have hpoint : IsScaled (0 + k) (lottery.point word) (lottery'.point word) :=
      (IsScaled.refl _).mul hscale (hmeets.point lottery hok) (hmeets'.point lottery' hok')
    rw [zero_add] at hpoint
    refine .inr ⟨lottery, lottery', rfl, hok', ?_⟩
    exact length_takeWhile_of_forall₂ hbounds fun bound bound' hbound =>
      decide_eq_decide.mpr (hbound.le_iff hpoint)

/-! ### Weights that are not small -/

/-- Sums of floats that are not small are in range if the last of them is finite. -/
theorem inRange_sums {start : Float} {rest : List Float} (hstart : 0.0 ≤ start)
    (hrest : ∀ weight ∈ rest, 0.0 ≤ weight ∧ (leastNormal : EReal) ≤ number weight)
    (hfinite : (rest.foldl (· + ·) start).isFinite = true) :
    ∀ pair ∈ (runningSums.go start rest).zip rest, InRange (number pair.1 + number pair.2) := by
  induction rest generalizing start with
  | nil =>
    rw [List.zip_nil_right]
    exact fun _ hmem => nomatch hmem
  | cons weight rest ih =>
    obtain ⟨⟨hweight, hlarge⟩, hrest⟩ := List.forall_mem_cons.mp hrest
    have hnext := Binary64.add_nonneg hstart hweight
    have hnonneg : ∀ weight ∈ rest, 0.0 ≤ weight := fun weight hmem => (hrest weight hmem).1
    have hle : start + weight ≤ rest.foldl (· + ·) (start + weight) :=
      foldl_add_le_of_sublist (List.nil_sublist rest) hnonneg hnext (le_refl_of_nonneg hnext)
    rw [runningSums.go, List.zip_cons_cons]
    refine List.forall_mem_cons.mpr ⟨⟨.inr (.inl ?_), ?_⟩, ih hnext hrest hfinite⟩
    · exact hlarge.trans (le_add_of_nonneg_left (nonneg_iff.mp hstart).2)
    · exact not_overflows_of_isFinite (add_spec_of_nonneg hstart hweight).2
        (isFinite_of_le hnext hle hfinite)

/-- The fractions of a float are in range if the least of them is. -/
theorem inRange_point {scale : Float} (hlarge : leastPointed ≤ scale)
    (hfinite : scale.isFinite = true) (word : UInt64) :
    InRange (number (fraction52 word) * number scale) := by
  obtain ⟨s, hs⟩ := exists_number_eq hfinite
  obtain ⟨hfraction, hnumber⟩ := number_fraction52 word
  have hlow : (2 ^ (-970 : ℤ) : ℝ) ≤ s := by
    have hle := (le_iff.mp hlarge).2.2
    rwa [number_leastPointed, hs, EReal.coe_le_coe_iff] at hle
  have hnonneg : 0.0 ≤ scale := Binary64.le_trans leastPointed_nonneg hlarge
  have hlt := toNat_shiftRight_lt word
  rw [hnumber, hs, ← EReal.coe_mul]
  constructor
  · rcases Nat.eq_zero_or_pos (word >>> 12).toNat with hzero | hpos
    · left
      rw [hzero]
      simp
    · -- one step of the fraction takes the scale down to the least normal float
      right; left
      refine EReal.coe_le_coe_iff.mpr ?_
      have hone : (1 : ℝ) ≤ (word >>> 12).toNat := by exact_mod_cast hpos
      calc leastNormal = 1 * 2 ^ (-52 : ℤ) * 2 ^ (-970 : ℤ) := by
            rw [one_mul, ← zpow_add₀ (by norm_num), leastNormal_eq]
            norm_num
        _ ≤ (word >>> 12).toNat * 2 ^ (-52 : ℤ) * s :=
            mul_le_mul (mul_le_mul_of_nonneg_right hone (by positivity)) hlow (by positivity)
              (by positivity)
  · -- a fraction is no greater than the whole
    have hone : (1.0 : Float).isFinite = true := by rfl
    have hpart : fraction52 word ≤ 1.0 :=
      Binary64.le_trans (fraction52_le_largest word) largest_le_one
    have hle : fraction52 word * scale ≤ scale :=
      Binary64.le_trans (mul_le_mul_of_nonneg hfraction hone hfinite hpart hnonneg)
        (mul_one_le hfinite)
    have hpoint := Binary64.mul_nonneg hfraction hfinite (fraction52_nonneg word) hnonneg
    rw [EReal.coe_mul, ← hnumber, ← hs]
    exact not_overflows_of_isFinite (number_mul _ _) (isFinite_of_le hpoint hle hfinite)

/-- Weights that are not small are drawn in range if their sum is finite. -/
theorem meets_of_large (hlarge : ∀ weight ∈ weights, leastPointed ≤ weight)
    (hfinite : (sum weights).isFinite = true) (word : UInt64) : Meets InRange weights word := by
  have hnonneg : ∀ weight ∈ weights, 0.0 ≤ weight := fun weight hmem =>
    Binary64.le_trans leastPointed_nonneg (hlarge weight hmem)
  cases weights with
  | nil => exact ⟨fun _ hmem => (nomatch hmem), fun _ hok => (nomatch hok)⟩
  | cons first rest =>
    -- sums of normal numbers are normal
    have hnormal : ∀ weight ∈ first :: rest, (leastNormal : EReal) ≤ number weight :=
      fun weight hmem => by
        rw [← number_leastNormalFloat]
        exact (le_iff.mp (Binary64.le_trans (by decide +kernel) (hlarge weight hmem))).2.2
    have hrest : ∀ weight ∈ rest, 0.0 ≤ weight ∧ (leastNormal : EReal) ≤ number weight :=
      fun weight hmem =>
        have hmem := List.mem_cons_of_mem first hmem
        ⟨hnonneg weight hmem, hnormal weight hmem⟩
    refine ⟨inRange_sums (hnonneg first List.mem_cons_self) hrest
      ((foldl_isFinite_iff hnonneg).mpr hfinite), fun lottery hok => ?_⟩
    obtain ⟨htotal, hle⟩ := le_total hnormal hok
    rw [scale_eq_total htotal hle]
    -- the total is above each weight, so the points are sized as they must be too
    have hpointed := (le_total (fun weight hmem => (le_iff.mp (hlarge weight hmem)).2.2) hok).2
    refine inRange_point (le_iff.mpr ⟨?_, isNaN_of_isFinite htotal, hpointed⟩) htotal word
    exact (nonneg_iff.mp leastPointed_nonneg).1

end NewsFeed.Lottery
