/-
Rounding to binary64 over the real numbers, part 1: the rounding function.

A float is a `scaled` mantissa.  Around a number `x` the finite floats lie `spacing x` apart: 52
binary places below the leading one of `x`, but never closer than `2^-1074`.  `nearest x` is the
multiple of that spacing nearest to `x`, of two equally near ones the even one.

* `nearest_mono` — rounding keeps the order of two numbers;
* `nearest_of_grid` — a number with at most 53 binary digits is its own rounding;
* `nearest_neg` — rounding does not look at the sign.

Design notes: `nearest` is total, since it does not look at the greatest float.  What happens from
`limit` on is said once, for the packed floats, in part 2.
-/
import Mathlib.Algebra.Order.Archimedean.Real.Basic
import Mathlib.Data.Int.Log
import Mathlib.Tactic.Linarith
import Mathlib.Tactic.Ring
import Mathlib.Tactic.FieldSimp
import Mathlib.Tactic.NormNum
import Mathlib.Tactic.Positivity

namespace NewsFeed.Binary64

/-! ### Rounding to an integer -/

/-- The integer nearest to `x`; of two equally near ones, the even one. -/
noncomputable def roundEven (x : ℝ) : ℤ :=
  if Int.fract x < 1 / 2 then ⌊x⌋
  else if 1 / 2 < Int.fract x then ⌊x⌋ + 1
  else ⌊x⌋ + ⌊x⌋ % 2

theorem floor_le_roundEven (x : ℝ) : ⌊x⌋ ≤ roundEven x := by
  unfold roundEven
  split_ifs <;> omega

theorem roundEven_le_floor_add_one (x : ℝ) : roundEven x ≤ ⌊x⌋ + 1 := by
  unfold roundEven
  split_ifs <;> omega

@[simp] theorem roundEven_intCast (n : ℤ) : roundEven (n : ℝ) = n := by
  simp [roundEven]

theorem roundEven_mono {x y : ℝ} (h : x ≤ y) : roundEven x ≤ roundEven y := by
  rcases (Int.floor_le_floor h).lt_or_eq with hlt | heq
  · -- an integer lies between them
    have hx := roundEven_le_floor_add_one x
    have hy := floor_le_roundEven y
    omega
  · have hfract : Int.fract x ≤ Int.fract y := by
      rw [← Int.self_sub_floor, ← Int.self_sub_floor, heq]
      linarith
    unfold roundEven
    rw [heq]
    split_ifs <;> first | omega | linarith

theorem roundEven_neg (x : ℝ) : roundEven (-x) = -roundEven x := by
  by_cases hx : Int.fract x = 0
  · obtain ⟨n, rfl⟩ : ∃ n : ℤ, x = n := ⟨⌊x⌋, by linarith [Int.self_sub_floor x]⟩
    rw [← Int.cast_neg, roundEven_intCast, roundEven_intCast]
  · have hfract : Int.fract (-x) = 1 - Int.fract x := Int.fract_neg hx
    have hfloor : ⌊-x⌋ = -⌊x⌋ - 1 := by
      have h : (⌊-x⌋ : ℝ) = ((-⌊x⌋ - 1 : ℤ) : ℝ) := by
        push_cast
        linarith [Int.self_sub_floor x, Int.self_sub_floor (-x)]
      exact_mod_cast h
    unfold roundEven
    rw [hfract, hfloor]
    split_ifs <;> first | omega | linarith

/-! ### Rounding to the grid around a number -/

/-- The number with mantissa `m` and exponent `e`. -/
noncomputable def scaled (m : ℝ) (e : ℤ) : ℝ :=
  m * 2 ^ e

theorem scaled_pos {m : ℝ} (h : 0 < m) (e : ℤ) : 0 < scaled m e :=
  mul_pos h (zpow_pos (by norm_num) e)

theorem scaled_nonneg {m : ℝ} (h : 0 ≤ m) (e : ℤ) : 0 ≤ scaled m e :=
  mul_nonneg h (zpow_pos (by norm_num) e).le

theorem scaled_lt_scaled {m m' : ℝ} (h : m < m') (e : ℤ) : scaled m e < scaled m' e :=
  mul_lt_mul_of_pos_right h (zpow_pos (by norm_num) e)

@[simp] theorem scaled_neg (m : ℝ) (e : ℤ) : scaled (-m) e = -scaled m e :=
  neg_mul m _

theorem abs_scaled (m : ℝ) (e : ℤ) : |scaled m e| = scaled |m| e := by
  have hpow : (0 : ℝ) < 2 ^ e := zpow_pos (by norm_num) e
  rw [scaled, abs_mul, abs_of_pos hpow, scaled]

/-- The least power of two beyond every float. -/
noncomputable def limit : ℝ :=
  2 ^ (1024 : ℤ)

/-- The exponent of the distance between two floats around `x`. -/
noncomputable def spacingExponent (x : ℝ) : ℤ :=
  max (Int.log 2 |x| - 52) (-1074)

/-- The distance between two floats around `x`. -/
noncomputable def spacing (x : ℝ) : ℝ :=
  2 ^ spacingExponent x

/-- The float nearest to `x`, as if floats could be arbitrarily large. -/
noncomputable def nearest (x : ℝ) : ℝ :=
  roundEven (x / spacing x) * spacing x

theorem spacing_pos (x : ℝ) : 0 < spacing x :=
  zpow_pos (by norm_num) _

@[simp] theorem nearest_zero : nearest 0 = 0 := by
  have h := roundEven_intCast 0
  rw [Int.cast_zero] at h
  simp [nearest, h]

theorem spacing_neg (x : ℝ) : spacing (-x) = spacing x := by
  simp [spacing, spacingExponent]

theorem nearest_neg (x : ℝ) : nearest (-x) = -nearest x := by
  unfold nearest
  rw [spacing_neg, neg_div, roundEven_neg]
  push_cast
  ring

/-- A point of the grid that is not above `x` is not above its rounding. -/
theorem le_nearest {x : ℝ} {n : ℤ} (h : n * spacing x ≤ x) : n * spacing x ≤ nearest x := by
  have hdiv : (n : ℝ) ≤ x / spacing x := (le_div_iff₀ (spacing_pos x)).mpr h
  have hround : n ≤ roundEven (x / spacing x) := by
    rw [← roundEven_intCast n]
    exact roundEven_mono hdiv
  exact mul_le_mul_of_nonneg_right (by exact_mod_cast hround) (spacing_pos x).le

/-- A point of the grid that is not below `x` is not below its rounding. -/
theorem nearest_le {x : ℝ} {n : ℤ} (h : x ≤ n * spacing x) : nearest x ≤ n * spacing x := by
  have hdiv : x / spacing x ≤ (n : ℝ) := (div_le_iff₀ (spacing_pos x)).mpr h
  have hround : roundEven (x / spacing x) ≤ n := by
    rw [← roundEven_intCast n]
    exact roundEven_mono hdiv
  exact mul_le_mul_of_nonneg_right (by exact_mod_cast hround) (spacing_pos x).le

theorem nearest_nonneg {x : ℝ} (h : 0 ≤ x) : 0 ≤ nearest x := by
  have := le_nearest (x := x) (n := 0) (by simpa using h)
  simpa using this

/-- A power of two of at least the spacing's exponent is a point of the grid. -/
theorem exists_mul_spacing {x : ℝ} {k : ℤ} (h : spacingExponent x ≤ k) :
    ∃ n : ℤ, (2 : ℝ) ^ k = n * spacing x := by
  refine ⟨2 ^ (k - spacingExponent x).toNat, ?_⟩
  have hk : ((k - spacingExponent x).toNat : ℤ) + spacingExponent x = k := by omega
  push_cast
  rw [spacing, ← zpow_natCast, ← zpow_add₀ (by norm_num), hk]

/-- Two positive numbers of different spacing have a power of two between them, which is a point of
both grids. -/
private theorem nearest_le_of_spacingExponent_lt {x y : ℝ} (hx : 0 < x) (hy : 0 < y)
    (h : spacingExponent x < spacingExponent y) : nearest x ≤ nearest y := by
  set k := Int.log 2 y with hk
  unfold spacingExponent at h
  rw [abs_of_pos hx, abs_of_pos hy, ← hk] at h
  have hlt : x < (2 : ℝ) ^ k := by
    exact_mod_cast (Int.lt_zpow_iff_log_lt (b := 2) (by norm_num) hx).mpr (by omega)
  have hle : (2 : ℝ) ^ k ≤ y := by
    exact_mod_cast Int.zpow_log_le_self (b := 2) (by norm_num) hy
  -- the power of two between `x` and `y` is on the grid of either
  obtain ⟨n, hn⟩ := exists_mul_spacing (x := x) (k := k) (by
    unfold spacingExponent
    rw [abs_of_pos hx]
    omega)
  obtain ⟨m, hm⟩ := exists_mul_spacing (x := y) (k := k) (by
    unfold spacingExponent
    rw [abs_of_pos hy]
    omega)
  calc nearest x ≤ n * spacing x := nearest_le (by rw [← hn]; exact hlt.le)
    _ = m * spacing y := by rw [← hn, hm]
    _ ≤ nearest y := le_nearest (by rw [← hm]; exact hle)

private theorem nearest_mono_of_nonneg {x y : ℝ} (hx : 0 ≤ x) (hxy : x ≤ y) :
    nearest x ≤ nearest y := by
  rcases hx.eq_or_lt with rfl | hpos
  · rw [nearest_zero]
    exact nearest_nonneg hxy
  · have hexp : spacingExponent x ≤ spacingExponent y := by
      have := Int.log_mono_right (b := 2) hpos hxy
      unfold spacingExponent
      rw [abs_of_pos hpos, abs_of_pos (hpos.trans_le hxy)]
      omega
    rcases hexp.eq_or_lt with heq | hlt
    · -- both are rounded on one grid
      have hspacing : spacing x = spacing y := by rw [spacing, spacing, heq]
      have hround : roundEven (x / spacing x) ≤ roundEven (y / spacing x) :=
        roundEven_mono ((div_le_div_iff_of_pos_right (spacing_pos x)).mpr hxy)
      unfold nearest
      rw [← hspacing]
      exact mul_le_mul_of_nonneg_right (by exact_mod_cast hround) (spacing_pos x).le
    · exact nearest_le_of_spacingExponent_lt hpos (hpos.trans_le hxy) hlt

/-- Rounding keeps the order. -/
theorem nearest_mono {x y : ℝ} (h : x ≤ y) : nearest x ≤ nearest y := by
  rcases le_total 0 x with hx | hx
  · exact nearest_mono_of_nonneg hx h
  -- a negative number is rounded as its opposite
  rcases le_total 0 y with hy | hy
  · have hneg := nearest_nonneg (x := -x) (by linarith)
    rw [nearest_neg] at hneg
    linarith [nearest_nonneg hy]
  · have hneg := nearest_mono_of_nonneg (x := -y) (y := -x) (by linarith) (by linarith)
    rw [nearest_neg, nearest_neg] at hneg
    linarith

/-- A point of the grid around itself is its own rounding. -/
theorem nearest_eq_self {x : ℝ} {n : ℤ} (h : x = n * spacing x) : nearest x = x := by
  have hdiv : x / spacing x = n := by
    rw [div_eq_iff (spacing_pos x).ne']
    exact h
  rw [nearest, hdiv, roundEven_intCast]
  exact h.symm

/-- A number of at most 53 binary digits that are not finer than `2^-1074` is its own rounding. -/
theorem nearest_of_grid {n : ℤ} {e : ℤ} (hn : |n| < 2 ^ 53) (he : -1074 ≤ e) :
    nearest (n * 2 ^ e : ℝ) = n * 2 ^ e := by
  rcases eq_or_ne n 0 with rfl | hne
  · simp
  have hpow : (0 : ℝ) < 2 ^ e := zpow_pos (by norm_num) e
  have hpos : 0 < |(n * 2 ^ e : ℝ)| := by
    rw [abs_pos]
    exact mul_ne_zero (by exact_mod_cast hne) hpow.ne'
  -- a mantissa of 53 digits reaches down to `e`
  have hlog : Int.log 2 |(n * 2 ^ e : ℝ)| < 53 + e := by
    refine (Int.lt_zpow_iff_log_lt (b := 2) (by norm_num) hpos).mp ?_
    rw [abs_mul, abs_of_pos hpow]
    push_cast
    rw [zpow_add₀ (by norm_num)]
    refine mul_lt_mul_of_pos_right ?_ hpow
    exact_mod_cast hn
  obtain ⟨m, hm⟩ := exists_mul_spacing (x := n * 2 ^ e) (k := e) (by
    unfold spacingExponent
    omega)
  refine nearest_eq_self (n := n * m) ?_
  push_cast
  rw [mul_assoc, ← hm]

end NewsFeed.Binary64
