/-
Sums and differences of any floats.

An infinity takes whatever is added to it along, except for its opposite and for a NaN.  So the sum
of two floats is the exact sum of their numbers, rounded, wherever it is a number at all, and there
are only these two ways not to be one.  A difference is the sum with the opposite number.

* `isNaN_add_iff` — which sums are no numbers;
* `number_add` — the others are the exact sums, rounded;
* `sub_spec_of_isFinite` — what is left when a finite float is taken away from any number.
-/
import NewsFeed.Proofs.Scaling

namespace NewsFeed.Binary64

open Float.Model (Format UnpackedFloat)
open Float.Model.UnpackedFloat (Sign)

/-! ### Adding infinities -/

theorem add_infinity_comm (u : UnpackedFloat) (sign : Sign) :
    u.add Format.binary64 (.infinity sign) =
      (UnpackedFloat.infinity sign).add Format.binary64 u := by
  cases u with
  | notANumber => rfl
  | infinity sign' => cases sign <;> cases sign' <;> rfl
  | zero sign' => rfl
  | finite sign' m e h => rfl

theorem neg_extended_infinity (sign : Sign) :
    -extended (.infinity sign) = extended (.infinity (-sign)) := by
  cases sign
  · exact EReal.neg_bot
  · exact EReal.neg_top

/-- A sum with an infinity is that infinity, but no number for the opposite one or no number. -/
theorem add_infinity_cases (u : UnpackedFloat) (sign : Sign) :
    (UnpackedFloat.infinity sign).add Format.binary64 u = .notANumber ∧
        (u.isNaN = true ∨ extended u = -extended (.infinity sign)) ∨
      (UnpackedFloat.infinity sign).add Format.binary64 u = .infinity sign ∧
        u.isNaN = false ∧ extended u ≠ -extended (.infinity sign) := by
  cases u with
  | notANumber => exact .inl ⟨rfl, .inl rfl⟩
  | infinity sign' =>
    rw [neg_extended_infinity]
    -- two infinities: equal signs keep it, opposite ones give NaN
    cases sign <;> cases sign'
    · exact .inr ⟨rfl, rfl, bot_ne_top⟩
    · exact .inl ⟨rfl, .inr rfl⟩
    · exact .inl ⟨rfl, .inr rfl⟩
    · exact .inr ⟨rfl, rfl, top_ne_bot⟩
  | zero sign' =>
    refine .inr ⟨rfl, rfl, ?_⟩
    rw [neg_extended_infinity]
    cases sign
    · exact EReal.zero_ne_top
    · exact EReal.zero_ne_bot
  | finite sign' m e h =>
    refine .inr ⟨rfl, rfl, ?_⟩
    rw [neg_extended_infinity]
    cases sign
    · exact EReal.coe_ne_top _
    · exact EReal.coe_ne_bot _

/-- A sum with an infinite float is that infinity, and a NaN for the opposite one or a NaN. -/
theorem add_spec_of_infinite {x y : Float} (h : number x = ⊤ ∨ number x = ⊥) :
    y + x = x + y ∧ ((x + y).isNaN = true ↔ y.isNaN = true ∨ number y = -number x) ∧
      ((x + y).isNaN = false → number (x + y) = number x) := by
  obtain ⟨sign, hx⟩ := exists_infinity_of_number h
  have hmodel : x + y =
      .ofModel (.pack ((UnpackedFloat.infinity sign).add Format.binary64 y.toModel.unpack)) := by
    rw [← hx]
    rfl
  have hmodel' :
      y + x = .ofModel (.pack (y.toModel.unpack.add Format.binary64 (.infinity sign))) := by
    rw [← hx]
    rfl
  have hnumber : number x = extended (.infinity sign) := by rw [number, hx]
  -- addition commutes even where an operand is not finite
  rw [add_infinity_comm] at hmodel'
  refine ⟨hmodel'.trans hmodel.symm, ?_⟩
  rw [hmodel, hnumber]
  show (_ ↔ y.toModel.unpack.isNaN = true ∨ extended y.toModel.unpack = _) ∧ _
  rcases add_infinity_cases y.toModel.unpack sign with ⟨hadd, hcase⟩ | ⟨hadd, hnan, hne⟩
  · rw [hadd]
    exact ⟨iff_of_true rfl hcase, fun hnumber => by cases hnumber⟩
  · rw [hadd, hnan]
    refine ⟨iff_of_false (fun htrue => ?_) (by simpa using hne), fun _ => ?_⟩
    · cases sign <;> cases htrue
    · cases sign <;> rfl

theorem isNaN_add_of_isNaN {x y : Float} (h : x.isNaN = true ∨ y.isNaN = true) :
    (x + y).isNaN = true :=
  isNaN_of_operand (UnpackedFloat.add Format.binary64) (fun v => by cases v <;> rfl)
    (fun u => by cases u <;> rfl) h

/-! ### Sums -/

/-- The sum of two floats is a NaN if one of them is, or for opposite infinities. -/
theorem isNaN_add_iff {x y : Float} :
    (x + y).isNaN = true ↔ x.isNaN = true ∨ y.isNaN = true ∨
      number x = ⊤ ∧ number y = ⊥ ∨ number x = ⊥ ∧ number y = ⊤ := by
  constructor
  · intro h
    -- finite sums are numbers, so one operand is infinite or NaN
    rcases isFinite_or_infinite_or_isNaN x with hx | hx | hx
    · rcases isFinite_or_infinite_or_isNaN y with hy | hy | hy
      · rw [(add_spec hx hy).1] at h
        cases h
      · obtain ⟨hcomm, hnan, -⟩ := add_spec_of_infinite (y := x) hy
        rcases hnan.mp (hcomm ▸ h) with hx' | hx'
        · exact .inl hx'
        · obtain ⟨-, htop, hbot⟩ := isFinite_iff.mp hx
          rcases hy with hy | hy <;> rw [hy] at hx'
          · exact absurd hx' hbot
          · exact absurd hx' htop
      · exact .inr (.inl hy)
    · obtain ⟨-, hnan, -⟩ := add_spec_of_infinite (y := y) hx
      rcases hnan.mp h with hy | hy
      · exact .inr (.inl hy)
      · rcases hx with hx | hx <;> rw [hx] at hy
        · exact .inr (.inr (.inl ⟨hx, hy⟩))
        · exact .inr (.inr (.inr ⟨hx, hy⟩))
    · exact .inl hx
  · rintro (hx | hy | ⟨hx, hy⟩ | ⟨hx, hy⟩)
    · exact isNaN_add_of_isNaN (.inl hx)
    · exact isNaN_add_of_isNaN (.inr hy)
    · exact (add_spec_of_infinite (.inl hx)).2.1.mpr (.inr (by rw [hx, hy, EReal.neg_top]))
    · exact (add_spec_of_infinite (.inr hx)).2.1.mpr (.inr (by rw [hx, hy, EReal.neg_bot]))

/-- A sum that is a number is the exact one, rounded. -/
theorem number_add {x y : Float} (h : (x + y).isNaN = false) :
    number (x + y) = rounded (number x + number y) := by
  obtain ⟨hx, hy, hopposite⟩ : x.isNaN = false ∧ y.isNaN = false ∧
      ¬ (number x = ⊤ ∧ number y = ⊥ ∨ number x = ⊥ ∧ number y = ⊤) := by
    have hnot := mt isNaN_add_iff.mpr (by rw [h]; exact Bool.false_ne_true)
    simpa only [not_or, Bool.not_eq_true] using hnot
  -- the sum of an infinity and what is not the opposite one, in either order
  have hinfinite (a b : EReal) (ha : a = ⊤ ∨ a = ⊥)
      (hab : ¬ (a = ⊤ ∧ b = ⊥ ∨ a = ⊥ ∧ b = ⊤)) : rounded (a + b) = a := by
    rcases ha with rfl | rfl
    · rw [EReal.top_add_of_ne_bot fun hb => hab (.inl ⟨rfl, hb⟩), rounded_top]
    · rw [EReal.bot_add, rounded_bot]
  rcases isFinite_or_infinite_or_isNaN x with hx' | hx' | hx'
  · rcases isFinite_or_infinite_or_isNaN y with hy' | hy' | hy'
    · exact (add_spec hx' hy').2
    · obtain ⟨hcomm, -, hnumber⟩ := add_spec_of_infinite (y := x) hy'
      rw [hcomm] at h ⊢
      rw [hnumber h, add_comm, hinfinite _ _ hy']
      rwa [and_comm, and_comm (a := number y = ⊥), or_comm]
    · cases hy.symm.trans hy'
  · obtain ⟨-, -, hnumber⟩ := add_spec_of_infinite (y := y) hx'
    rw [hnumber h, hinfinite _ _ hx' hopposite]
  · cases hx.symm.trans hx'

/-! ### Differences -/

theorem infinity_sub (sign : Sign) {u : UnpackedFloat} (h : u.isFinite = true) :
    (UnpackedFloat.infinity sign).sub Format.binary64 u = .infinity sign := by
  cases u <;> first | rfl | cases h

theorem isNaN_sub_of_isNaN {x y : Float} (h : x.isNaN = true ∨ y.isNaN = true) :
    (x - y).isNaN = true :=
  isNaN_of_operand (UnpackedFloat.sub Format.binary64) (fun v => by cases v <;> rfl)
    (fun u => by cases u <;> rfl) h

/-- A finite float can be taken away from any number. -/
theorem sub_spec_of_isFinite {x y : Float} (hx : x.isNaN = false) (hy : y.isFinite = true) :
    (x - y).isNaN = false ∧ number (x - y) = rounded (number x - number y) := by
  rcases isFinite_or_infinite_or_isNaN x with hx' | hx' | hx'
  · exact sub_spec hx' hy
  · obtain ⟨sign, hsign⟩ := exists_infinity_of_number hx'
    have hmodel : x - y = .ofModel (.pack (.infinity sign)) := by
      show Float.ofModel (.pack (x.toModel.unpack.sub Format.binary64 y.toModel.unpack)) = _
      rw [hsign, infinity_sub sign hy]
    obtain ⟨s, hs⟩ := exists_number_eq hy
    have hnumber : number x = extended (.infinity sign) := by rw [number, hsign]
    rw [hmodel, hnumber, hs]
    cases sign
    · exact ⟨rfl, rfl⟩
    · exact ⟨rfl, rfl⟩
  · cases hx.symm.trans hx'

end NewsFeed.Binary64
