/-
The values of numerals are finite.

The digits of a numeral give a word, which is a float between 0 and `2^64`.  Multiplying it by a
power of ten may leave the range; such a product is refused.  Dividing it cannot: every power in the
table is at least 1, so the quotient stays between 0 and what is divided, however often that is done.

* `powerOfTen_bounds` — the powers in the table are ordered as they should be at both ends;
* `isFinite_of_scaled?` — a float that has been scaled is finite;
* `isFinite_of_value?` — a numeral with a value stands for a finite number.
-/
import NewsFeed.Json.Numeral
import NewsFeed.Proofs.Dividing
import NewsFeed.Proofs.Finite

namespace NewsFeed.Binary64

open Float.Model (UnpackedFloat)

theorem isFinite_iff_isInf {x : Float} :
    x.isFinite = true ↔ x.isNaN = false ∧ x.isInf = false := by
  show x.toModel.unpack.isFinite = true ↔
    x.toModel.unpack.isNaN = false ∧ x.toModel.unpack.isInf = false
  cases x.toModel.unpack <;>
    simp [UnpackedFloat.isFinite, UnpackedFloat.isNaN, UnpackedFloat.isInf]

theorem toFloat_nonneg (word : UInt64) : 0.0 ≤ word.toFloat := by
  obtain ⟨hfinite, hnumber⟩ := toFloat_spec word
  rw [nonneg_iff, hnumber]
  exact ⟨isNaN_of_isFinite hfinite, EReal.coe_nonneg.mpr (nearest_nonneg (Nat.cast_nonneg _))⟩

/-- Dividing by a number that is at least 1 does not make more of it. -/
theorem div_le_of_one_le {x y : Float} (hx : 0.0 ≤ x) (hxfinite : x.isFinite = true)
    (hy : 1.0 ≤ y) (hyfinite : y.isFinite = true) : 0.0 ≤ x / y ∧ x / y ≤ x := by
  obtain ⟨r, hr⟩ := exists_number_eq hxfinite
  obtain ⟨s, hs⟩ := exists_number_eq hyfinite
  have hnonneg := (nonneg_iff.mp hx).2
  have hone := (le_iff.mp hy).2.2
  rw [hr, EReal.coe_nonneg] at hnonneg
  rw [number_one, hs, ← EReal.coe_one, EReal.coe_le_coe_iff] at hone
  have hpos : 0 < s := by linarith
  have hne : number y ≠ 0 := by
    rw [hs, ← EReal.coe_zero, Ne, EReal.coe_eq_coe_iff]
    exact hpos.ne'
  obtain ⟨hnan, hnumber⟩ := div_spec hxfinite hyfinite hne
  rw [hr, hs, ← EReal.coe_div] at hnumber
  rw [nonneg_iff, le_iff, hnumber]
  refine ⟨⟨hnan, ?_⟩, hnan, isNaN_of_isFinite hxfinite, ?_⟩
  · rw [← rounded_zero]
    exact rounded_mono (EReal.coe_nonneg.mpr (div_nonneg hnonneg hpos.le))
  · -- `x` is its own rounding, and the exact quotient is not above it
    rw [← rounded_number x, hr]
    exact rounded_mono (EReal.coe_le_coe_iff.mpr (div_le_self hnonneg hone))

end NewsFeed.Binary64

namespace NewsFeed.Json.Numeral

open NewsFeed.Binary64

/-! ### Powers of ten -/

/-- Beyond the powers that are floats themselves, a power of ten is rounded. -/
theorem number_powerOfTen {places : ℕ} (hlow : 22 < places) (hhigh : places ≤ greatestPower) :
    (powerOfTen places).isNaN = false ∧
      Binary64.number (powerOfTen places) = rounded (((10 ^ places : ℕ) : ℝ) : EReal) := by
  rw [greatestPower] at hhigh
  have hspec := standsFor_ofScientific one_pos (e := places) (by omega)
  rw [one_mul] at hspec
  rw [powerOfTen, Float.ofScientific, dif_neg (by omega)]
  exact hspec.number_pack

theorem powerOfTen_bounds {places : ℕ} (h : places ≤ greatestPower) :
    1.0 ≤ powerOfTen places ∧ powerOfTen places ≤ powerOfTen greatestPower := by
  rcases le_or_gt places 22 with hsmall | hlarge
  · have hall : ∀ places : Fin 23,
        1.0 ≤ powerOfTen places ∧ powerOfTen places ≤ powerOfTen greatestPower := by
      decide +kernel
    exact hall ⟨places, by omega⟩
  · obtain ⟨hnan, hnumber⟩ := number_powerOfTen hlarge h
    obtain ⟨hnan', hnumber'⟩ := number_powerOfTen (by decide) le_rfl
    rw [le_iff, le_iff, hnumber, hnumber']
    refine ⟨⟨by decide +kernel, hnan, ?_⟩, hnan, hnan', rounded_mono ?_⟩
    · rw [← rounded_number 1.0, number_one]
      refine rounded_mono ?_
      exact_mod_cast Nat.one_le_pow _ _ (by norm_num)
    · exact_mod_cast Nat.pow_le_pow_right (by norm_num) h

theorem isFinite_powerOfTen {places : ℕ} (h : places ≤ greatestPower) :
    (powerOfTen places).isFinite = true := by
  obtain ⟨hone, hle⟩ := powerOfTen_bounds h
  exact isFinite_of_le (Binary64.le_trans (by decide +kernel) hone) hle (by decide +kernel)

/-! ### Scaling -/

variable {x y : Float}

theorem div_powerOfTen_bounds (hx : 0.0 ≤ x) (hfinite : x.isFinite = true) {places : ℕ}
    (h : places ≤ greatestPower) :
    0.0 ≤ x / powerOfTen places ∧ (x / powerOfTen places).isFinite = true := by
  obtain ⟨hlow, hhigh⟩ :=
    div_le_of_one_le hx hfinite (powerOfTen_bounds h).1 (isFinite_powerOfTen h)
  exact ⟨hlow, isFinite_of_le hlow hhigh hfinite⟩

/-- Dividing again and again stays finite, and not negative on the way. -/
theorem isFinite_shrink (hx : 0.0 ≤ x) (hfinite : x.isFinite = true) {places : ℕ}
    (h : places ≤ greatestPower) (times : ℕ) : (shrink x places times).isFinite = true := by
  induction times generalizing x with
  | zero => exact (div_powerOfTen_bounds hx hfinite h).2
  | succ times ih =>
    rw [shrink]
    split
    · exact hfinite
    · obtain ⟨hlow, hquotient⟩ := div_powerOfTen_bounds hx hfinite le_rfl
      exact ih hlow hquotient

theorem isFinite_of_scaled? (hx : 0.0 ≤ x) (hfinite : x.isFinite = true) {exponent : ℤ}
    (h : scaled? x exponent = some y) : y.isFinite = true := by
  cases exponent with
  | ofNat places =>
    rw [scaled?] at h
    dsimp only at h
    split_ifs at h with hplaces hinfinite hzero
    · -- the product of two finite floats is a number, and an infinite one has been refused
      cases h
      obtain ⟨hnan, -⟩ := mul_spec hfinite (isFinite_powerOfTen hplaces)
      exact isFinite_iff_isInf.mpr ⟨hnan, Bool.eq_false_of_not_eq_true hinfinite⟩
    · cases h
      exact hfinite
  | negSucc places =>
    cases h
    exact isFinite_shrink hx hfinite (Nat.mod_lt places (by decide)) _

/-! ### Values -/

theorem isFinite_wholeNumber (negative : Bool) (word : ℕ) : (wholeNumber negative word).IsFinite := by
  have hreal : (Number.real (-(UInt64.ofNat word).toFloat)).IsFinite :=
    isFinite_neg (toFloat_spec (UInt64.ofNat word)).1
  rw [wholeNumber]
  split_ifs
  · exact (by decide +kernel : (-0.0 : Float).isFinite = true)
  · trivial
  · exact hreal
  · trivial

/-- A numeral with a value stands for a finite number. -/
theorem isFinite_of_value? {numeral : Numeral} {negative : Bool} {value : Number}
    (h : numeral.value? negative = some value) : value.IsFinite := by
  rw [value?] at h
  generalize takeDigits 0 numeral.whole = taken at h
  obtain ⟨word, left⟩ := taken
  dsimp only at h
  split at h
  · cases h
    exact isFinite_wholeNumber negative word
  · generalize takeDigits word numeral.fraction = taken at h
    obtain ⟨word, ignored⟩ := taken
    obtain ⟨size, hsize, rfl⟩ := Option.map_eq_some_iff.mp h
    have hscaled := isFinite_of_scaled? (toFloat_nonneg _) (toFloat_spec _).1 hsize
    cases negative with
    | true => exact isFinite_neg hscaled
    | false => exact hscaled

end NewsFeed.Json.Numeral
