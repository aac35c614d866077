/-
The order and the arithmetic of floats.

A float that is no NaN stands for an extended real number, `number`, and comparing two floats
compares their numbers.  Adding and multiplying is done on the numbers, exactly, and followed by
`rounded`.  Everything else here comes from `rounded` being monotone and leaving the numbers of
floats alone.

* `le_iff`, `lt_iff`, `beq_iff` — comparisons are those of the numbers;
* `add_spec`, `sub_spec`, `mul_spec` — an operation on finite floats is the exact one, `rounded`;
* `add_le_add_of_nonneg`, `le_add_right` — adding something that is not negative keeps the order and
  makes nothing smaller;
* `foldl_add_le_of_sublist` — leaving summands out makes a sum no greater, whatever the rounding on
  the way.

Design notes: a hypothesis `0.0 ≤ x` rules out a NaN, so it is used in place of two conditions.
-/
import NewsFeed.Binary64
import NewsFeed.Proofs.Rounding

namespace NewsFeed.Binary64

open Float.Model (Format UnpackedFloat)
open Float.Model.UnpackedFloat (Sign decreaseExponent)

/-! ### Numbers -/

/-- The number that a float stands for.  A NaN stands for none; its value here is 0, and every
statement about it is kept apart. -/
noncomputable def number (x : Float) : EReal :=
  extended x.toModel.unpack

theorem canonical_unpack_toModel (x : Float) : Canonical x.toModel.unpack :=
  canonical_unpack _

theorem isFinite_iff {x : Float} :
    x.isFinite = true ↔ x.isNaN = false ∧ number x ≠ ⊤ ∧ number x ≠ ⊥ := by
  show x.toModel.unpack.isFinite = true ↔
    x.toModel.unpack.isNaN = false ∧ extended x.toModel.unpack ≠ ⊤ ∧ extended x.toModel.unpack ≠ ⊥
  cases x.toModel.unpack with
  | notANumber => simp [UnpackedFloat.isFinite, UnpackedFloat.isNaN]
  | infinity sign => cases sign <;> simp [UnpackedFloat.isFinite, extended]
  | zero sign => simp [UnpackedFloat.isFinite, UnpackedFloat.isNaN, extended]
  | finite sign mantissa exponent h =>
    exact iff_of_true rfl ⟨rfl, EReal.coe_ne_top _, EReal.coe_ne_bot _⟩

/-- A float that stands for a real number is finite. -/
theorem isFinite_of_number_eq {x : Float} {r : ℝ} (hnan : x.isNaN = false) (h : number x = r) :
    x.isFinite = true := by
  refine isFinite_iff.mpr ⟨hnan, ?_, ?_⟩
  · rw [h]
    exact EReal.coe_ne_top r
  · rw [h]
    exact EReal.coe_ne_bot r

theorem exists_number_eq {x : Float} (h : x.isFinite = true) : ∃ r : ℝ, number x = r := by
  obtain ⟨-, htop, hbot⟩ := isFinite_iff.mp h
  exact ⟨(number x).toReal, (EReal.coe_toReal htop hbot).symm⟩

theorem isNaN_of_isFinite {x : Float} (h : x.isFinite = true) : x.isNaN = false :=
  (isFinite_iff.mp h).1

/-! ### Order -/

theorem isNaN_of_compare {u v : UnpackedFloat} {o : Ordering} (h : u.compare v = some o) :
    u.isNaN = false ∧ v.isNaN = false := by
  cases u <;> cases v <;> first | exact ⟨rfl, rfl⟩ | simp [UnpackedFloat.compare] at h

theorem exists_compare_toModel {x y : Float} (hx : x.isNaN = false) (hy : y.isNaN = false) :
    ∃ o, x.toModel.unpack.compare y.toModel.unpack = some o ∧
      o.Compares (number x) (number y) :=
  exists_compare (canonical_unpack_toModel x) (canonical_unpack_toModel y) hx hy

theorem le_iff {x y : Float} :
    x ≤ y ↔ x.isNaN = false ∧ y.isNaN = false ∧ number x ≤ number y := by
  have hmodel : x ≤ y ↔ (x.toModel.unpack.compare y.toModel.unpack).any (·.isLE) = true :=
    decide_eq_true_iff
  rw [hmodel]
  constructor
  · intro h
    obtain ⟨o, ho, hle⟩ := (Option.any_eq_true _ _).mp h
    obtain ⟨hx, hy⟩ := isNaN_of_compare ho
    obtain ⟨o', ho', hcompares⟩ := exists_compare_toModel hx hy
    obtain rfl : o = o' := Option.some.inj (ho.symm.trans ho')
    exact ⟨hx, hy, hcompares.ne_gt.mp (Ordering.isLE_iff_ne_gt.mp hle)⟩
  · rintro ⟨hx, hy, hle⟩
    obtain ⟨o, ho, hcompares⟩ := exists_compare_toModel hx hy
    rw [ho]
    exact Ordering.isLE_iff_ne_gt.mpr (hcompares.ne_gt.mpr hle)

theorem lt_iff {x y : Float} :
    x < y ↔ x.isNaN = false ∧ y.isNaN = false ∧ number x < number y := by
  have hmodel : x < y ↔ (x.toModel.unpack.compare y.toModel.unpack == some .lt) = true :=
    decide_eq_true_iff
  rw [hmodel, beq_iff_eq]
  constructor
  · intro h
    obtain ⟨hx, hy⟩ := isNaN_of_compare h
    obtain ⟨o, ho, hcompares⟩ := exists_compare_toModel hx hy
    obtain rfl : .lt = o := Option.some.inj (h.symm.trans ho)
    exact ⟨hx, hy, hcompares⟩
  · rintro ⟨hx, hy, hlt⟩
    obtain ⟨o, ho, hcompares⟩ := exists_compare_toModel hx hy
    rw [ho, hcompares.eq_lt.mpr hlt]

theorem beq_iff {x y : Float} :
    (x == y) = true ↔ x.isNaN = false ∧ y.isNaN = false ∧ number x = number y := by
  have hmodel : (x == y) = true ↔
      (x.toModel.unpack.compare y.toModel.unpack == some .eq) = true := Iff.rfl
  rw [hmodel, beq_iff_eq]
  constructor
  · intro h
    obtain ⟨hx, hy⟩ := isNaN_of_compare h
    obtain ⟨o, ho, hcompares⟩ := exists_compare_toModel hx hy
    obtain rfl : .eq = o := Option.some.inj (h.symm.trans ho)
    exact ⟨hx, hy, hcompares⟩
  · rintro ⟨hx, hy, heq⟩
    obtain ⟨o, ho, hcompares⟩ := exists_compare_toModel hx hy
    rw [ho, hcompares.eq_eq.mpr heq]

@[simp] theorem number_zero : number 0.0 = 0 := by
  have h : (0.0 : Float).toModel.unpack = .zero .positive := by rfl
  rw [number, h, extended]

theorem isNaN_zero : (0.0 : Float).isNaN = false := by
  rfl

theorem nonneg_iff {x : Float} : 0.0 ≤ x ↔ x.isNaN = false ∧ 0 ≤ number x := by
  rw [le_iff, number_zero]
  exact ⟨fun h => h.2, fun h => ⟨isNaN_zero, h⟩⟩

protected theorem le_of_lt {x y : Float} (h : x < y) : x ≤ y := by
  obtain ⟨hx, hy, hlt⟩ := lt_iff.mp h
  exact le_iff.mpr ⟨hx, hy, hlt.le⟩

theorem zero_nonneg : (0.0 : Float) ≤ 0.0 :=
  nonneg_iff.mpr ⟨isNaN_zero, number_zero.ge⟩

protected theorem le_trans {x y z : Float} (hxy : x ≤ y) (hyz : y ≤ z) : x ≤ z := by
  obtain ⟨hx, -, hle⟩ := le_iff.mp hxy
  obtain ⟨-, hz, hle'⟩ := le_iff.mp hyz
  exact le_iff.mpr ⟨hx, hz, hle.trans hle'⟩

protected theorem lt_of_le_of_lt {x y z : Float} (hxy : x ≤ y) (hyz : y < z) : x < z := by
  obtain ⟨hx, -, hle⟩ := le_iff.mp hxy
  obtain ⟨-, hz, hlt⟩ := lt_iff.mp hyz
  exact lt_iff.mpr ⟨hx, hz, hle.trans_lt hlt⟩

theorem lt_of_not_le {x y : Float} (hx : x.isNaN = false) (hy : y.isNaN = false) (h : ¬ x ≤ y) :
    y < x := by
  refine lt_iff.mpr ⟨hy, hx, not_le.mp fun hle => h ?_⟩
  exact le_iff.mpr ⟨hx, hy, hle⟩

theorem not_lt_of_le {x y : Float} (h : x ≤ y) : ¬ y < x := fun hlt =>
  absurd (le_iff.mp h).2.2 (not_le.mpr (lt_iff.mp hlt).2.2)

/-- What lies between 0 and a finite float is finite. -/
theorem isFinite_of_le {x y : Float} (hx : 0.0 ≤ x) (hxy : x ≤ y) (hy : y.isFinite = true) :
    x.isFinite = true := by
  obtain ⟨hnan, hnonneg⟩ := nonneg_iff.mp hx
  obtain ⟨-, htop, -⟩ := isFinite_iff.mp hy
  obtain ⟨-, -, hle⟩ := le_iff.mp hxy
  exact isFinite_iff.mpr
    ⟨hnan, (hle.trans_lt (lt_top_iff_ne_top.mpr htop)).ne, (EReal.bot_lt_zero.trans_le hnonneg).ne'⟩

/-! ### Rounding -/

/-- Rounds a number to the nearest float, an infinity beyond the greatest. -/
noncomputable def rounded : EReal → EReal
  | ⊤ => ⊤
  | ⊥ => ⊥
  | (x : ℝ) => overflow (nearest x)

theorem rounded_coe (x : ℝ) : rounded x = overflow (nearest x) := rfl

@[simp] theorem rounded_top : rounded ⊤ = ⊤ := rfl

@[simp] theorem rounded_zero : rounded 0 = 0 := by
  rw [← EReal.coe_zero, rounded_coe, nearest_zero]
  exact overflow_zero

theorem rounded_mono {x y : EReal} (h : x ≤ y) : rounded x ≤ rounded y := by
  induction x with
  | bot => exact bot_le
  | top =>
    rw [top_le_iff] at h
    rw [h]
  | coe x =>
    induction y with
    | bot => exact absurd h (not_le.mpr (EReal.bot_lt_coe x))
    | top => exact le_top
    | coe y =>
      exact overflow_mono (EReal.coe_le_coe_iff.mpr (nearest_mono (EReal.coe_le_coe_iff.mp h)))

theorem standsFor_toModel {x : Float} {r : ℝ} (h : x.isFinite = true) (hr : number x = r) :
    StandsFor x.toModel.unpack r :=
  ⟨canonical_unpack_toModel x, h, hr⟩

/-- The number of a finite float is on the grid around it and within the range. -/
theorem nearest_eq_of_number {x : Float} {r : ℝ} (h : x.isFinite = true) (hr : number x = r) :
    nearest r = r ∧ |r| < limit := by
  have hcanonical := canonical_unpack_toModel x
  have hfinite : x.toModel.unpack.isFinite = true := h
  unfold number at hr
  generalize hu : x.toModel.unpack = u at *
  cases u with
  | notANumber => cases hfinite
  | infinity sign => cases hfinite
  | zero sign =>
    obtain rfl : 0 = r := EReal.coe_eq_coe_iff.mp hr
    exact ⟨nearest_zero, by simpa using limit_pos⟩
  | finite sign mantissa exponent hm =>
    obtain rfl : scaled (sign.apply mantissa) exponent = r := EReal.coe_eq_coe_iff.mp hr
    have hle : exponent ≤ 971 := exponent_le_of_unpack hu
    have hsmall : |sign.apply mantissa| < 2 ^ 53 := by
      have hlt := hcanonical.1
      cases sign <;> simp [Sign.apply] <;> omega
    refine ⟨nearest_of_grid hsmall hcanonical.2.1, ?_⟩
    rw [abs_scaled, abs_apply]
    exact not_le.mp fun hover => absurd ((limit_le_iff hcanonical).mp hover) (by omega)

/-- A float is its own rounding. -/
@[simp] theorem rounded_number (x : Float) : rounded (number x) = number x := by
  by_cases h : x.isFinite = true
  · obtain ⟨r, hr⟩ := exists_number_eq h
    obtain ⟨hnearest, hlimit⟩ := nearest_eq_of_number h hr
    rw [hr, rounded_coe, hnearest, overflow_of_abs_lt hlimit]
  · have hinfinite : x.toModel.unpack.isFinite ≠ true := h
    unfold number
    cases hu : x.toModel.unpack with
    | notANumber => exact rounded_zero
    | infinity sign => cases sign <;> rfl
    | zero sign => exact absurd rfl (hu ▸ hinfinite)
    | finite sign mantissa exponent hm => exact absurd rfl (hu ▸ hinfinite)

/-- Packing a rounded number. -/
theorem StandsFor.number_pack {u : UnpackedFloat} {x : ℝ} (h : StandsFor u (nearest x)) :
    (Float.ofModel (.pack u)).isNaN = false ∧ number (.ofModel (.pack u)) = rounded x := by
  refine ⟨isNaN_unpack_pack h.canonical ?_, ?_⟩
  · have hfinite := h.finite
    cases u <;> first | rfl | cases hfinite
  · rw [rounded_coe, ← h.value, ← extended_unpack_pack h.canonical]
    rfl

/-- Packing a rounded number in the range. -/
theorem StandsFor.isFinite_pack {u : UnpackedFloat} {x : ℝ} (h : StandsFor u (nearest x))
    (hx : |nearest x| < limit) :
    (Float.ofModel (.pack u)).isFinite = true ∧ number (.ofModel (.pack u)) = nearest x := by
  obtain ⟨hnan, hnumber⟩ := h.number_pack
  rw [rounded_coe, overflow_of_abs_lt hx] at hnumber
  exact ⟨isFinite_of_number_eq hnan hnumber, hnumber⟩

/-! ### Adding and multiplying -/

theorem decreaseExponent_of_le {m : ℕ} {e t : ℤ} (h : t ≤ e) :
    ((decreaseExponent m e t).1 : ℝ) * 2 ^ t = m * 2 ^ e := by
  have hexponent : (decreaseExponent m e t).2 = t := by
    show e - ((e - t).toNat : ℤ) = t
    omega
  have hvalue := (decreaseExponent_spec m e t).1
  rw [hexponent] at hvalue
  exact hvalue

theorem apply_mul (sign : Sign) (m : ℕ) (x : ℝ) :
    (sign.apply m : ℝ) * x = sign.apply 1 * (m * x) := by
  cases sign <;> simp [Sign.apply]

theorem apply_neg (sign : Sign) (n : ℤ) : (-sign).apply n = -sign.apply n := by
  cases sign with
  | negative => exact (neg_neg n).symm
  | positive => rfl

theorem mul_apply (sign sign' : Sign) (n n' : ℤ) :
    (sign * sign').apply (n * n') = sign.apply n * sign'.apply n' := by
  cases sign with
  | negative =>
    cases sign' with
    | negative => exact (neg_mul_neg n n').symm
    | positive => exact (neg_mul n n').symm
  | positive =>
    cases sign' with
    | negative => exact (mul_neg n n').symm
    | positive => rfl

section

variable {u v : UnpackedFloat} {r s : ℝ}

theorem StandsFor.add (hu : StandsFor u r) (hv : StandsFor v s) (hr : nearest r = r)
    (hs : nearest s = s) : StandsFor (u.add Format.binary64 v) (nearest (r + s)) := by
  cases u with
  | notANumber => cases hu.finite
  | infinity sign => cases hu.finite
  | zero sign =>
    obtain rfl : 0 = r := EReal.coe_eq_coe_iff.mp hu.value
    -- nothing is added to the other float, and it is its own rounding
    rw [zero_add, hs]
    cases v with
    | notANumber => cases hv.finite
    | infinity sign' => cases hv.finite
    | zero sign' =>
      obtain rfl : 0 = s := EReal.coe_eq_coe_iff.mp hv.value
      cases sign <;> cases sign' <;> exact StandsFor.zero _
    | finite sign' m' e' h' => exact hv
  | finite sign m e h =>
    cases v with
    | notANumber => cases hv.finite
    | infinity sign' => cases hv.finite
    | zero sign' =>
      obtain rfl : 0 = s := EReal.coe_eq_coe_iff.mp hv.value
      rw [add_zero, hr]
      exact hu
    | finite sign' m' e' h' =>
      obtain rfl : (sign.apply m * 2 ^ e : ℝ) = r := EReal.coe_eq_coe_iff.mp hu.value
      obtain rfl : (sign'.apply m' * 2 ^ e' : ℝ) = s := EReal.coe_eq_coe_iff.mp hv.value
      -- both mantissas are brought to the smaller exponent, where the sum is one of integers
      have hspec := normalize_spec
        (sign.apply (decreaseExponent m e (min e e')).1 +
          sign'.apply (decreaseExponent m' e' (min e e')).1) (min e e') .positive
      rw [Int.cast_add, add_mul, apply_mul, apply_mul sign', decreaseExponent_of_le (by omega),
        decreaseExponent_of_le (by omega), ← apply_mul, ← apply_mul] at hspec
      exact hspec

theorem StandsFor.neg (hu : StandsFor u r) : StandsFor u.neg (-r) := by
  cases u with
  | notANumber => cases hu.finite
  | infinity sign => cases hu.finite
  | zero sign =>
    obtain rfl : 0 = r := EReal.coe_eq_coe_iff.mp hu.value
    rw [neg_zero]
    exact StandsFor.zero _
  | finite sign m e h =>
    obtain rfl : scaled (sign.apply m) e = r := EReal.coe_eq_coe_iff.mp hu.value
    refine ⟨hu.canonical, rfl, EReal.coe_eq_coe_iff.mpr ?_⟩
    cases sign <;> simp [Sign.apply]

theorem sub_eq_add (u v : UnpackedFloat) :
    u.sub Format.binary64 v = u.add Format.binary64 v.neg := by
  cases u <;> cases v <;> try rfl
  rename_i sign m e h sign' m' e' h'
  simp only [UnpackedFloat.sub, UnpackedFloat.add, UnpackedFloat.neg, apply_neg, sub_eq_add_neg]

theorem StandsFor.sub (hu : StandsFor u r) (hv : StandsFor v s) (hr : nearest r = r)
    (hs : nearest s = s) : StandsFor (u.sub Format.binary64 v) (nearest (r - s)) := by
  rw [sub_eq_add, sub_eq_add_neg]
  exact hu.add hv.neg hr (by rw [nearest_neg, hs])

/-- The exponent of a product is never above that of the spacing around it. -/
theorem add_le_spacingExponent {m m' : ℕ} {e e' : ℤ} (hm : 0 < m) (hm' : 0 < m')
    (h : 2 ^ 52 ≤ m ∨ e = -1074) (h' : 2 ^ 52 ≤ m' ∨ e' = -1074) :
    e + e' ≤ spacingExponent (((m * m' : ℕ) : ℝ) * 2 ^ (e + e')) := by
  have hpos : 0 < ((m * m' : ℕ) : ℝ) * 2 ^ (e + e') :=
    mul_pos (by exact_mod_cast Nat.mul_pos hm hm') (zpow_pos (by norm_num) _)
  rw [spacingExponent, abs_of_pos hpos, log_mul_two_zpow (Nat.mul_pos hm hm')]
  by_cases hlarge : 2 ^ 52 ≤ m * m'
  · have hlog : 52 ≤ (m * m').log2 := (Nat.le_log2 (by omega)).mpr hlarge
    omega
  · have hm52 : ¬ 2 ^ 52 ≤ m := fun hle => hlarge (hle.trans (Nat.le_mul_of_pos_right m hm'))
    have hm52' : ¬ 2 ^ 52 ≤ m' := fun hle => hlarge (hle.trans (Nat.le_mul_of_pos_left m' hm))
    omega

theorem StandsFor.mul (hu : StandsFor u r) (hv : StandsFor v s) :
    StandsFor (u.mul Format.binary64 v) (nearest (r * s)) := by
  cases u with
  | notANumber => cases hu.finite
  | infinity sign => cases hu.finite
  | zero sign =>
    obtain rfl : 0 = r := EReal.coe_eq_coe_iff.mp hu.value
    rw [zero_mul, nearest_zero]
    cases v with
    | notANumber => cases hv.finite
    | infinity sign' => cases hv.finite
    | zero sign' => exact StandsFor.zero _
    | finite sign' m' e' h' => exact StandsFor.zero _
  | finite sign m e h =>
    cases v with
    | notANumber => cases hv.finite
    | infinity sign' => cases hv.finite
    | zero sign' =>
      obtain rfl : 0 = s := EReal.coe_eq_coe_iff.mp hv.value
      rw [mul_zero, nearest_zero]
      exact StandsFor.zero _
    | finite sign' m' e' h' =>
      obtain rfl : (sign.apply m * 2 ^ e : ℝ) = r := EReal.coe_eq_coe_iff.mp hu.value
      obtain rfl : (sign'.apply m' * 2 ^ e' : ℝ) = s := EReal.coe_eq_coe_iff.mp hv.value
      -- the product of the mantissas is exact, and has more digits than are kept
      have hspec := roundWithAccuracy_spec (sign * sign') (Nat.mul_pos h h')
        (add_le_spacingExponent h h' hu.canonical.2.2 hv.canonical.2.2)
      have hvalue : ((sign * sign').apply (m * m' : ℕ) * 2 ^ (e + e') : ℝ) =
          sign.apply m * 2 ^ e * (sign'.apply m' * 2 ^ e') := by
        rw [zpow_add₀ (by norm_num), Nat.cast_mul, mul_apply]
        push_cast
        ring
      rw [hvalue] at hspec
      exact hspec

end

theorem add_spec {x y : Float} (hx : x.isFinite = true) (hy : y.isFinite = true) :
    (x + y).isNaN = false ∧ number (x + y) = rounded (number x + number y) := by
  obtain ⟨r, hr⟩ := exists_number_eq hx
  obtain ⟨s, hs⟩ := exists_number_eq hy
  rw [hr, hs, ← EReal.coe_add]
  exact ((standsFor_toModel hx hr).add (standsFor_toModel hy hs) (nearest_eq_of_number hx hr).1
    (nearest_eq_of_number hy hs).1).number_pack

theorem sub_spec {x y : Float} (hx : x.isFinite = true) (hy : y.isFinite = true) :
    (x - y).isNaN = false ∧ number (x - y) = rounded (number x - number y) := by
  obtain ⟨r, hr⟩ := exists_number_eq hx
  obtain ⟨s, hs⟩ := exists_number_eq hy
  rw [hr, hs, ← EReal.coe_sub]
  exact ((standsFor_toModel hx hr).sub (standsFor_toModel hy hs) (nearest_eq_of_number hx hr).1
    (nearest_eq_of_number hy hs).1).number_pack

theorem mul_spec {x y : Float} (hx : x.isFinite = true) (hy : y.isFinite = true) :
    (x * y).isNaN = false ∧ number (x * y) = rounded (number x * number y) := by
  obtain ⟨r, hr⟩ := exists_number_eq hx
  obtain ⟨s, hs⟩ := exists_number_eq hy
  rw [hr, hs, ← EReal.coe_mul]
  exact ((standsFor_toModel hx hr).mul (standsFor_toModel hy hs)).number_pack

/-- A product with a NaN or a zero is a NaN or a zero. -/
theorem number_mul_eq_zero {x y : Float} (h : number x = 0 ∨ number y = 0) :
    number (x * y) = 0 := by
  have hzero : extended (x.toModel.unpack.mul Format.binary64 y.toModel.unpack) = 0 := by
    rcases h with h | h
    · rcases eq_of_extended_eq_zero h with heq | ⟨sign, heq⟩ <;> rw [heq] <;>
        cases y.toModel.unpack <;> rfl
    · rcases eq_of_extended_eq_zero h with heq | ⟨sign, heq⟩ <;> rw [heq] <;>
        cases x.toModel.unpack <;> rfl
  have hcanonical : Canonical (x.toModel.unpack.mul Format.binary64 y.toModel.unpack) := by
    rcases eq_of_extended_eq_zero hzero with heq | ⟨sign, heq⟩ <;> rw [heq] <;> trivial
  calc number (x * y)
      = overflow (extended (x.toModel.unpack.mul Format.binary64 y.toModel.unpack)) :=
        extended_unpack_pack hcanonical
    _ = 0 := by rw [hzero, overflow_zero]

/-- The only float that is neither negative nor finite. -/
theorem unpack_eq_infinity {x : Float} (hx : 0.0 ≤ x) (h : ¬ x.isFinite = true) :
    x.toModel.unpack = .infinity .positive := by
  obtain ⟨hnan, hnonneg⟩ := nonneg_iff.mp hx
  have hnan' : x.toModel.unpack.isNaN = false := hnan
  have hinfinite : ¬ x.toModel.unpack.isFinite = true := h
  unfold number at hnonneg
  cases hu : x.toModel.unpack with
  | notANumber => rw [hu] at hnan'; cases hnan'
  | infinity sign =>
    cases sign with
    | negative =>
      rw [hu] at hnonneg
      exact absurd hnonneg (not_le.mpr EReal.bot_lt_zero)
    | positive => rfl
  | zero sign => exact absurd rfl (hu ▸ hinfinite)
  | finite sign mantissa exponent hm => exact absurd rfl (hu ▸ hinfinite)

/-- Two floats that are not negative are added as the numbers they stand for, and rounded. -/
theorem add_spec_of_nonneg {x y : Float} (hx : 0.0 ≤ x) (hy : 0.0 ≤ y) :
    (x + y).isNaN = false ∧ number (x + y) = rounded (number x + number y) := by
  have hpack : ∀ z : Float, z = .ofModel (.pack (.infinity .positive)) →
      z.isNaN = false ∧ number z = ⊤ := by
    rintro z rfl
    exact ⟨rfl, rfl⟩
  have hmodel : x + y = .ofModel (.pack (x.toModel.unpack.add Format.binary64 y.toModel.unpack)) :=
    rfl
  have hx' := (nonneg_iff.mp hx).2
  have hy' := (nonneg_iff.mp hy).2
  by_cases hxfin : x.isFinite = true
  · by_cases hyfin : y.isFinite = true
    · exact add_spec hxfin hyfin
    · -- the sum is infinite in both readings
      have htop := unpack_eq_infinity hy hyfin
      have hnumber : number y = ⊤ := by rw [number, htop]; rfl
      rw [hnumber, EReal.add_top_of_ne_bot (EReal.bot_lt_zero.trans_le hx').ne', rounded_top]
      refine hpack _ ?_
      rw [hmodel, htop]
      have hxfin' : x.toModel.unpack.isFinite = true := hxfin
      generalize x.toModel.unpack = u at *
      cases u <;> first | rfl | cases hxfin'
  · have htop := unpack_eq_infinity hx hxfin
    have hnumber : number x = ⊤ := by rw [number, htop]; rfl
    rw [hnumber, EReal.top_add_of_ne_bot (EReal.bot_lt_zero.trans_le hy').ne', rounded_top]
    refine hpack _ ?_
    rw [hmodel, htop]
    by_cases hyfin : y.isFinite = true
    · have hyfin' : y.toModel.unpack.isFinite = true := hyfin
      generalize y.toModel.unpack = v at *
      cases v <;> first | rfl | cases hyfin'
    · rw [unpack_eq_infinity hy hyfin]
      rfl

/-! ### Sums of floats that are not negative -/

protected theorem add_nonneg {x y : Float} (hx : 0.0 ≤ x) (hy : 0.0 ≤ y) : 0.0 ≤ x + y := by
  obtain ⟨hnan, hnumber⟩ := add_spec_of_nonneg hx hy
  refine nonneg_iff.mpr ⟨hnan, ?_⟩
  rw [hnumber, ← rounded_zero]
  exact rounded_mono (add_nonneg (nonneg_iff.mp hx).2 (nonneg_iff.mp hy).2)

/-- Adding keeps the order. -/
theorem add_le_add_of_nonneg {x y z w : Float} (hx : 0.0 ≤ x) (hz : 0.0 ≤ z) (hxy : x ≤ y)
    (hzw : z ≤ w) : x + z ≤ y + w := by
  obtain ⟨hnan, hnumber⟩ := add_spec_of_nonneg hx hz
  obtain ⟨hnan', hnumber'⟩ :=
    add_spec_of_nonneg (Binary64.le_trans hx hxy) (Binary64.le_trans hz hzw)
  refine le_iff.mpr ⟨hnan, hnan', ?_⟩
  rw [hnumber, hnumber']
  exact rounded_mono (add_le_add (le_iff.mp hxy).2.2 (le_iff.mp hzw).2.2)

/-- Adding makes nothing smaller. -/
theorem le_add_right {x y : Float} (hx : 0.0 ≤ x) (hy : 0.0 ≤ y) : x ≤ x + y := by
  obtain ⟨hnan, hnumber⟩ := add_spec_of_nonneg hx hy
  refine le_iff.mpr ⟨(nonneg_iff.mp hx).1, hnan, ?_⟩
  calc number x = rounded (number x) := (rounded_number x).symm
    _ ≤ rounded (number x + number y) := rounded_mono (le_add_of_nonneg_right (nonneg_iff.mp hy).2)
    _ = number (x + y) := hnumber.symm

/-- Adding to 0 changes nothing. -/
theorem zero_add_le {x : Float} (hx : 0.0 ≤ x) : x ≤ 0.0 + x ∧ 0.0 + x ≤ x := by
  obtain ⟨hnan, hnumber⟩ := add_spec_of_nonneg zero_nonneg hx
  have hx' := (nonneg_iff.mp hx).1
  rw [number_zero, zero_add, rounded_number] at hnumber
  exact ⟨le_iff.mpr ⟨hx', hnan, hnumber.ge⟩, le_iff.mpr ⟨hnan, hx', hnumber.le⟩⟩

theorem le_refl_of_nonneg {x : Float} (hx : 0.0 ≤ x) : x ≤ x :=
  le_iff.mpr ⟨(nonneg_iff.mp hx).1, (nonneg_iff.mp hx).1, le_rfl⟩

/-- Adding 0 changes nothing. -/
theorem add_le_self_of_not_pos {x y : Float} (hx : 0.0 ≤ x) (hy : 0.0 ≤ y) (h : ¬ 0.0 < y) :
    x + y ≤ x := by
  obtain ⟨hnan, hnumber⟩ := add_spec_of_nonneg hx hy
  obtain ⟨hy', hnonneg⟩ := nonneg_iff.mp hy
  have hzero : number y = 0 := by
    refine le_antisymm (not_lt.mp fun hlt => h ?_) hnonneg
    exact lt_iff.mpr ⟨isNaN_zero, hy', by rwa [number_zero]⟩
  refine le_iff.mpr ⟨hnan, (nonneg_iff.mp hx).1, ?_⟩
  rw [hnumber, hzero, add_zero, rounded_number]

theorem foldl_add_nonneg {weights : List Float} {start : Float} (hstart : 0.0 ≤ start)
    (h : ∀ weight ∈ weights, 0.0 ≤ weight) : 0.0 ≤ weights.foldl (· + ·) start := by
  induction weights generalizing start with
  | nil => exact hstart
  | cons weight rest ih =>
    exact ih (Binary64.add_nonneg hstart (h weight List.mem_cons_self)) fun weight' hmem =>
      h weight' (List.mem_cons_of_mem _ hmem)

/-- Leaving summands out, or starting lower, makes a sum no greater. -/
theorem foldl_add_le_of_sublist {weights weights' : List Float} (hsub : weights.Sublist weights')
    (h : ∀ weight ∈ weights', 0.0 ≤ weight) {start start' : Float} (hstart : 0.0 ≤ start)
    (hle : start ≤ start') : weights.foldl (· + ·) start ≤ weights'.foldl (· + ·) start' := by
  induction hsub generalizing start start' with
  | slnil => exact hle
  | @cons weights weights' weight hsub ih =>
    have hweight := h weight List.mem_cons_self
    refine ih (fun weight' hmem => h weight' (List.mem_cons_of_mem _ hmem)) hstart ?_
    exact Binary64.le_trans hle (le_add_right (Binary64.le_trans hstart hle) hweight)
  | @cons_cons weights weights' weight hsub ih =>
    have hweight := h weight List.mem_cons_self
    refine ih (fun weight' hmem => h weight' (List.mem_cons_of_mem _ hmem))
      (Binary64.add_nonneg hstart hweight) ?_
    exact add_le_add_of_nonneg hstart hweight hle (le_refl_of_nonneg hweight)

/-- A summand is no greater than the sum. -/
theorem le_foldl_add {weights : List Float} (h : ∀ weight ∈ weights, 0.0 ≤ weight)
    {weight start : Float} (hmem : weight ∈ weights) (hstart : 0.0 ≤ start) :
    weight ≤ weights.foldl (· + ·) start := by
  have hweight := h weight hmem
  have hsum := foldl_add_le_of_sublist (List.singleton_sublist.mpr hmem) h hstart
    (le_refl_of_nonneg hstart)
  refine Binary64.le_trans ?_ hsum
  obtain ⟨hnan, hnumber⟩ := add_spec_of_nonneg hstart hweight
  refine le_iff.mpr ⟨(nonneg_iff.mp hweight).1, hnan, ?_⟩
  calc number weight = rounded (number weight) := (rounded_number weight).symm
    _ ≤ rounded (number start + number weight) :=
        rounded_mono (le_add_of_nonneg_left (nonneg_iff.mp hstart).2)
    _ = number (start + weight) := hnumber.symm

end NewsFeed.Binary64
