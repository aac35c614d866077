/-
Projections onto an interval.

A value is stretched from 0 to 1 onto the interval and then kept inside of it.  Stretching is the
exact thing only in the middle: the length of the interval may overflow, the product with it may,
and where an infinity meets a 0 or its opposite there is no number at all, in place of which the
lower bound is taken.  The order of the values is kept across all of that, because such a value
either has none below it that is mapped above the lower bound, or the bounds leave no choice.

* `number_project` — a projection as a number;
* `project_bounds` — a projection lies between its bounds;
* `project_mono` — a greater value has no smaller projection;
* `project_clamps` — all of these, and what becomes of a NaN.
-/
import NewsFeed.Proofs.Sums
import NewsFeed.Proofs.Verdicts
import NewsFeed.Weight

namespace NewsFeed

open Binary64

namespace Binary64

/-! ### The maximum and the minimum -/

/-- The maximum of a float and a number. -/
theorem larger_spec {x y : Float} (hy : y.isNaN = false) :
    (larger x y).isNaN = false ∧
      number (larger x y) = if x.isNaN then number y else max (number x) (number y) := by
  unfold larger
  by_cases hx : x.isNaN = true
  · rw [if_pos hx, if_pos hx]
    exact ⟨hy, rfl⟩
  have hx' : x.isNaN = false := by simpa using hx
  rw [if_neg hx, if_neg hx]
  split_ifs with hlt
  · exact ⟨hy, (max_eq_right (lt_iff.mp hlt).2.2.le).symm⟩
  · refine ⟨hx', (max_eq_left (not_lt.mp fun h => hlt ?_)).symm⟩
    exact lt_iff.mpr ⟨hx', hy, h⟩

/-- The minimum of two numbers. -/
theorem smaller_spec {x y : Float} (hx : x.isNaN = false) (hy : y.isNaN = false) :
    (smaller x y).isNaN = false ∧ number (smaller x y) = min (number x) (number y) := by
  unfold smaller
  rw [if_neg (by rw [hx]; exact Bool.false_ne_true)]
  split_ifs with hlt
  · exact ⟨hy, (min_eq_right (lt_iff.mp hlt).2.2.le).symm⟩
  · refine ⟨hx, (min_eq_left (not_lt.mp fun h => hlt ?_)).symm⟩
    exact lt_iff.mpr ⟨hy, hx, h⟩

end Binary64

variable {value value' least greatest : Float}

/-! ### Stretching -/

/-- Where a value is mapped to before it is kept between the bounds. -/
def stretched (value least greatest : Float) : Float :=
  least + value * (greatest - least)

/-- The length of an interval that starts at a finite number. -/
theorem length_spec (hfinite : least.isFinite = true) (h : least ≤ greatest) :
    (greatest - least).isNaN = false ∧ 0 ≤ number (greatest - least) := by
  obtain ⟨-, hgreatest, hle⟩ := le_iff.mp h
  obtain ⟨-, htop, hbot⟩ := isFinite_iff.mp hfinite
  obtain ⟨hnan, hnumber⟩ := sub_spec_of_isFinite hgreatest hfinite
  refine ⟨hnan, ?_⟩
  rw [hnumber, ← rounded_zero]
  exact rounded_mono ((EReal.sub_nonneg (.inr htop) (.inr hbot)).mpr hle)

theorem number_stretched (h : (stretched value least greatest).isNaN = false) :
    number (stretched value least greatest) =
      rounded (number least + rounded (number value * number (greatest - least))) := by
  rw [stretched, number_add h, number_mul]

/-- Nothing is mapped above an infinite lower bound. -/
theorem number_stretched_of_bot (hbot : number least = ⊥)
    (h : (stretched value least greatest).isNaN = false) :
    number (stretched value least greatest) = ⊥ := by
  rw [number_stretched h, hbot, EReal.bot_add, rounded_bot]

/-- Stretching keeps the order, wherever it gives numbers. -/
theorem number_stretched_mono (hfinite : least.isFinite = true) (h : least ≤ greatest)
    (hle : number value ≤ number value') (hvalue : (stretched value least greatest).isNaN = false)
    (hvalue' : (stretched value' least greatest).isNaN = false) :
    number (stretched value least greatest) ≤ number (stretched value' least greatest) := by
  rw [number_stretched hvalue, number_stretched hvalue']
  have hlength := (length_spec hfinite h).2
  exact rounded_mono (add_le_add_right (rounded_mono (mul_le_mul_of_nonneg_right hle hlength)) _)

/-- A value that is mapped to no number has none below it that is mapped above the lower bound. -/
theorem number_stretched_le_least (hfinite : least.isFinite = true) (h : least ≤ greatest)
    (hle : value ≤ value') (hvalue : (stretched value least greatest).isNaN = false)
    (hvalue' : (stretched value' least greatest).isNaN = true) :
    number (stretched value least greatest) ≤ number least := by
  obtain ⟨hnan, htop, hbot⟩ := isFinite_iff.mp hfinite
  obtain ⟨-, hnan', hle⟩ := le_iff.mp hle
  obtain ⟨hlength, hnonneg⟩ := length_spec hfinite h
  -- it is enough that the product is not positive
  suffices hproduct : number value * number (greatest - least) ≤ 0 by
    have hrounded := rounded_mono hproduct
    rw [rounded_zero] at hrounded
    calc number (stretched value least greatest)
        = rounded (number least + rounded (number value * number (greatest - least))) :=
          number_stretched hvalue
      _ ≤ rounded (number least) := rounded_mono (add_le_of_nonpos_right hrounded)
      _ = number least := rounded_number least
  have hmul : (value' * (greatest - least)).isNaN = true := by
    rcases isNaN_add_iff.mp hvalue' with hleast | hmul | ⟨hleast, -⟩ | ⟨hleast, -⟩
    · cases hnan.symm.trans hleast
    · exact hmul
    · exact absurd hleast htop
    · exact absurd hleast hbot
  rcases isNaN_mul_iff.mp hmul with hnot | hnot | ⟨hzero, -⟩ | ⟨-, hzero⟩
  · cases hnan'.symm.trans hnot
  · cases hlength.symm.trans hnot
  · exact EReal.mul_nonpos_iff.mpr (.inr ⟨hzero ▸ hle, hnonneg⟩)
  · rw [hzero, mul_zero]

/-! ### Keeping between the bounds -/

/-- A projection as a number. -/
theorem number_project (h : least ≤ greatest) (hvalue : value.isNaN = false) :
    (project value least greatest).isNaN = false ∧
      number (project value least greatest) =
        if (stretched value least greatest).isNaN then number least
        else min (max (number (stretched value least greatest)) (number least))
          (number greatest) := by
  obtain ⟨hleast, hgreatest, hle⟩ := le_iff.mp h
  obtain ⟨hlarger, hnumber⟩ := larger_spec (x := stretched value least greatest) hleast
  obtain ⟨hsmaller, hnumber'⟩ := smaller_spec hlarger hgreatest
  have hproject : project value least greatest =
      smaller (larger (stretched value least greatest) least) greatest := by
    rw [project, hvalue]
    rfl
  rw [hproject, hnumber', hnumber]
  refine ⟨hsmaller, ?_⟩
  -- what is no number is replaced by the lower bound
  split_ifs
  · exact min_eq_left hle
  · rfl

/-- A NaN is taken for 0, without stretching it. -/
theorem project_of_isNaN (hvalue : value.isNaN = true) : project value least greatest = least := by
  rw [project, if_pos hvalue]

/-- What is mapped to no number, or no higher than the lower bound, is projected to that. -/
theorem number_project_of_le (h : least ≤ greatest) (hvalue : value.isNaN = false)
    (hlow : (stretched value least greatest).isNaN = false →
      number (stretched value least greatest) ≤ number least) :
    number (project value least greatest) = number least := by
  rw [(number_project h hvalue).2]
  split_ifs with hnan
  · rfl
  · rw [max_eq_right (hlow (by simpa using hnan)), min_eq_left (le_iff.mp h).2.2]

theorem project_bounds (h : least ≤ greatest) (value : Float) :
    least ≤ project value least greatest ∧ project value least greatest ≤ greatest := by
  obtain ⟨hleast, hgreatest, hle⟩ := le_iff.mp h
  by_cases hvalue : value.isNaN = true
  · rw [project_of_isNaN hvalue]
    exact ⟨le_iff.mpr ⟨hleast, hleast, le_rfl⟩, h⟩
  have hvalue' : value.isNaN = false := by simpa using hvalue
  obtain ⟨hnan, hnumber⟩ := number_project h hvalue'
  rw [le_iff, le_iff, hnumber]
  refine ⟨⟨hleast, hnan, ?_⟩, hnan, hgreatest, ?_⟩
  · split_ifs
    · exact le_rfl
    · exact le_min (le_max_right _ _) hle
  · split_ifs
    · exact hle
    · exact min_le_right _ _

/-- A greater value has no smaller projection. -/
theorem project_mono (h : least ≤ greatest) (hle : value ≤ value') :
    project value least greatest ≤ project value' least greatest := by
  obtain ⟨hvalue, hvalue', hnumber⟩ := le_iff.mp hle
  obtain ⟨hnan, hproject⟩ := number_project h hvalue
  obtain ⟨hnan', hproject'⟩ := number_project h hvalue'
  -- a value that is projected to the lower bound is below every other one
  have hlow (heq : number (project value least greatest) = number least) :
      project value least greatest ≤ project value' least greatest :=
    le_iff.mpr ⟨hnan, hnan', heq.trans_le (le_iff.mp (project_bounds h value').1).2.2⟩
  by_cases hstretched : (stretched value least greatest).isNaN = true
  · exact hlow (number_project_of_le h hvalue fun hnot => by cases hnot.symm.trans hstretched)
  have hstretched : (stretched value least greatest).isNaN = false := by simpa using hstretched
  rcases isFinite_or_infinite_or_isNaN least with hfinite | (htop | hbot) | hleast
  · by_cases hstretched' : (stretched value' least greatest).isNaN = true
    · exact hlow (number_project_of_le h hvalue fun hvalue =>
        number_stretched_le_least hfinite h hle hvalue hstretched')
    · have hstretched' : (stretched value' least greatest).isNaN = false := by
        simpa using hstretched'
      refine le_iff.mpr ⟨hnan, hnan', ?_⟩
      rw [hproject, hproject', hstretched, hstretched']
      have hmono := number_stretched_mono hfinite h hnumber hstretched hstretched'
      exact min_le_min_right _ (max_le_max_right _ hmono)
  · -- the upper bound is infinite as well
    refine le_iff.mpr ⟨hnan, hnan', ?_⟩
    have hbound := (le_iff.mp (project_bounds h value').1).2.2
    rw [htop, top_le_iff] at hbound
    rw [hbound]
    exact le_top
  · exact hlow (number_project_of_le h hvalue fun hvalue =>
      (number_stretched_of_bot hbot hvalue).trans_le bot_le)
  · cases (le_iff.mp h).1.symm.trans hleast

/-- **A projection stays in its interval and keeps the order.**  The bounds may be any numbers in
order, infinite ones and such with a distance that overflows included, and so may the values.  A NaN
is projected to the lower bound. -/
theorem project_clamps (h : least ≤ greatest) :
    (∀ value, least ≤ project value least greatest ∧ project value least greatest ≤ greatest) ∧
    (∀ value value', value ≤ value' →
      project value least greatest ≤ project value' least greatest) ∧
    ∀ value, value.isNaN = true → project value least greatest = least :=
  ⟨project_bounds h, fun _ _ => project_mono h, fun _ => project_of_isNaN⟩

/-- Bounds whose distance overflows, an infinite value, and a NaN. -/
theorem project_clamps_overflowing :
    (1e308 : Float) - -1e308 = infinity ∧ (-1e308 : Float) ≤ 1e308 ∧
      (-1e308 ≤ project 0.5 (-1e308) 1e308 ∧ project 0.5 (-1e308) 1e308 ≤ 1e308) ∧
      project 0.0 (-1e308) 1e308 ≤ project infinity (-1e308) 1e308 ∧
      project (0.0 / 0.0) (-1e308) 1e308 = -1e308 := by
  have h : (-1e308 : Float) ≤ 1e308 := by decide +kernel
  obtain ⟨hbounds, hmono, hnan⟩ := project_clamps h
  refine ⟨by decide +kernel, h, hbounds 0.5, hmono 0.0 infinity ?_, hnan (0.0 / 0.0) ?_⟩
  · decide +kernel
  · decide +kernel

end NewsFeed
