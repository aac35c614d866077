/-
Weights of articles.

A weight is the popularity times three factors between 0 and 1.  Rounding keeps the order, so a
product with such a factor is no greater than without it, and greater factors make no smaller
product, also where it is rounded to fewer digits or to 0.

One of the factors takes more: the visits are stretched from 0 to 1 onto the numbers from a floor to
1, for which three results are rounded, and the distance from the floor to 1 may be rounded up.  But
it is at most `2^-54` too great then, a quarter of what lies between 1 and the next float, and so
the sum is not rounded to more than 1.

* `nearest_add_complement_le` — a number and its rounded complement do not add up to more than 1;
* `stretched_inUnit` — the factor for the visits lies between 0 and 1;
* `articleWeight_bounds`, `articleWeight_mono` — the weight that a signal gives an article;
* `weight_bounded_and_monotone` — the same of articles and the signals in a map.
-/
import NewsFeed.Proofs.Admission
import NewsFeed.Proofs.Projection

namespace NewsFeed

open Binary64

/-! ### How far rounding goes -/

namespace Binary64

theorem abs_roundEven_sub_le (x : ℝ) : |(roundEven x : ℝ) - x| ≤ 1 / 2 := by
  have hfract : x = ⌊x⌋ + Int.fract x := (Int.floor_add_fract x).symm
  have hnonneg := Int.fract_nonneg x
  have hlt := Int.fract_lt_one x
  rw [abs_le]
  unfold roundEven
  split_ifs with hlow hhigh
  · constructor <;> linarith
  · push_cast
    constructor <;> linarith
  · -- a half goes down or up
    rcases Int.emod_two_eq_zero_or_one ⌊x⌋ with heven | hodd
    · rw [heven, add_zero]
      constructor <;> linarith
    · rw [hodd]
      push_cast
      constructor <;> linarith

/-- A number is rounded by half of a spacing at most. -/
theorem abs_nearest_sub_le (x : ℝ) : |nearest x - x| ≤ spacing x / 2 := by
  have hspacing := spacing_pos x
  have hx : x = x / spacing x * spacing x := (div_mul_cancel₀ x hspacing.ne').symm
  calc |nearest x - x| = |(roundEven (x / spacing x) - x / spacing x) * spacing x| := by
        rw [sub_mul, ← hx, nearest]
    _ = |roundEven (x / spacing x) - x / spacing x| * spacing x := by
        rw [abs_mul, abs_of_pos hspacing]
    _ ≤ 1 / 2 * spacing x := mul_le_mul_of_nonneg_right (abs_roundEven_sub_le _) hspacing.le
    _ = spacing x / 2 := by ring

theorem spacing_of_one_le_of_lt_two {x : ℝ} (h : 1 ≤ x) (h' : x < 2) :
    spacing x = 2 ^ (-52 : ℤ) := by
  have hlog : Int.log 2 x = 0 := by
    have hfloor : ⌊x⌋₊ = 1 := by
      rw [Nat.floor_eq_iff (by linarith)]
      norm_num
      exact ⟨h, by linarith⟩
    rw [Int.log_of_one_le_right _ h, hfloor]
    norm_num
  rw [spacing, spacingExponent, abs_of_pos (by linarith), hlog]
  norm_num

theorem spacing_le_of_lt_one {x : ℝ} (h : 0 < x) (h' : x < 1) : spacing x ≤ 2 ^ (-53 : ℤ) := by
  have hlog : Int.log 2 x < 0 := by
    refine (Int.lt_zpow_iff_log_lt (b := 2) (by norm_num) h).mp ?_
    simpa using h'
  refine zpow_le_zpow_right₀ (by norm_num) ?_
  rw [spacingExponent, abs_of_pos h]
  omega

/-- A quarter of the spacing above 1 is rounded away. -/
theorem nearest_le_one {x : ℝ} (h : x ≤ 1 + 2 ^ (-54 : ℤ)) : nearest x ≤ 1 := by
  refine (nearest_mono h).trans (le_of_eq ?_)
  have hspacing : spacing (1 + 2 ^ (-54 : ℤ)) = 2 ^ (-52 : ℤ) :=
    spacing_of_one_le_of_lt_two (by norm_num) (by norm_num)
  have hdiv : (1 + 2 ^ (-54 : ℤ) : ℝ) / 2 ^ (-52 : ℤ) = (2 ^ 52 : ℤ) + 1 / 4 := by norm_num
  have hfloor : ⌊((2 ^ 52 : ℤ) + 1 / 4 : ℝ)⌋ = 2 ^ 52 := by
    rw [Int.floor_intCast_add]
    norm_num
  have hround : roundEven ((2 ^ 52 : ℤ) + 1 / 4 : ℝ) = 2 ^ 52 := by
    rw [roundEven, if_pos, hfloor]
    rw [← Int.self_sub_floor, hfloor]
    norm_num
  rw [nearest, hspacing, hdiv, hround]
  norm_num

/-- A number between 0 and 1 and its rounded complement add up to no more than 1, rounded. -/
theorem nearest_add_complement_le {x : ℝ} (h : 0 ≤ x) (h' : x ≤ 1) :
    nearest (x + nearest (1 - x)) ≤ 1 := by
  rcases h.eq_or_lt with rfl | hpos
  · have hone := nearest_of_grid (n := 1) (e := 0) (by norm_num) (by norm_num)
    rw [Int.cast_one, zpow_zero, mul_one] at hone
    rw [zero_add, sub_zero, hone, hone]
  rcases h'.eq_or_lt with rfl | hlt
  · rw [sub_self, nearest_zero, add_zero]
    exact nearest_le_one (by norm_num)
  · refine nearest_le_one ?_
    have herror := (abs_le.mp (abs_nearest_sub_le (1 - x))).2
    have hspacing := spacing_le_of_lt_one (x := 1 - x) (by linarith) (by linarith)
    calc x + nearest (1 - x) ≤ 1 + spacing (1 - x) / 2 := by linarith
      _ ≤ 1 + 2 ^ (-53 : ℤ) / 2 := by gcongr
      _ = 1 + 2 ^ (-54 : ℤ) := by norm_num

/-! ### Products with factors between 0 and 1 -/

/-- Whether a float lies between 0 and 1. -/
structure InUnit (x : Float) : Prop where
  nonneg : 0.0 ≤ x
  le_one : x ≤ 1.0

section

variable {x y z w : Float}

theorem isFinite_one : (1.0 : Float).isFinite = true := by
  rfl

theorem InUnit.isFinite (h : InUnit x) : x.isFinite = true :=
  isFinite_of_le h.nonneg h.le_one isFinite_one

theorem inUnit_one : InUnit 1.0 :=
  ⟨by decide +kernel, by decide +kernel⟩

/-- Greater factors make no smaller product. -/
theorem mul_le_mul_of_le (hx : 0.0 ≤ x) (hz : 0.0 ≤ z) (hxy : x ≤ y) (hzw : z ≤ w)
    (hy : y.isFinite = true) (hw : w.isFinite = true) : x * z ≤ y * w := by
  have hnan := (mul_spec (isFinite_of_le hx hxy hy) (isFinite_of_le hz hzw hw)).1
  have hnan' := (mul_spec hy hw).1
  refine le_iff.mpr ⟨hnan, hnan', ?_⟩
  rw [number_mul, number_mul]
  refine rounded_mono ?_
  have hy' := (nonneg_iff.mp hx).2.trans (le_iff.mp hxy).2.2
  exact mul_le_mul (le_iff.mp hxy).2.2 (le_iff.mp hzw).2.2 (nonneg_iff.mp hz).2 hy'

/-- A factor of at most 1 makes nothing greater. -/
theorem mul_le_of_inUnit (hx : 0.0 ≤ x) (hfinite : x.isFinite = true) (hy : InUnit y) :
    x * y ≤ x :=
  Binary64.le_trans
    (mul_le_mul_of_le hx hy.nonneg (le_refl_of_nonneg hx) hy.le_one hfinite isFinite_one)
    (mul_one_le hfinite)

theorem inUnit_mul_le (hx : 0.0 ≤ x) (hfinite : x.isFinite = true) (hy : InUnit y) :
    y * x ≤ x :=
  Binary64.le_trans (mul_le_mul_swap hy.isFinite hfinite) (mul_le_of_inUnit hx hfinite hy)

/-- A product with a factor between 0 and 1 stays finite and does not become negative. -/
theorem mul_inUnit_bounds (hx : 0.0 ≤ x) (hfinite : x.isFinite = true) (hy : InUnit y) :
    0.0 ≤ x * y ∧ (x * y).isFinite = true := by
  have hnonneg := Binary64.mul_nonneg hfinite hy.isFinite hx hy.nonneg
  exact ⟨hnonneg, isFinite_of_le hnonneg (mul_le_of_inUnit hx hfinite hy) hfinite⟩

/-- The complement of a float between 0 and 1, rounded. -/
theorem complement_spec (h : InUnit x) :
    0.0 ≤ 1.0 - x ∧ (1.0 - x).isFinite = true ∧ x + (1.0 - x) ≤ 1.0 := by
  obtain ⟨r, hr⟩ := exists_number_eq h.isFinite
  have hnonneg : 0 ≤ r := by
    have hle := (nonneg_iff.mp h.nonneg).2
    rwa [hr, EReal.coe_nonneg] at hle
  have hle : r ≤ 1 := by
    have hle := (le_iff.mp h.le_one).2.2
    rw [hr, number_one] at hle
    exact_mod_cast hle
  have hgrid := nearest_of_grid (n := 1) (e := 0) (by norm_num) (by norm_num)
  rw [Int.cast_one, zpow_zero, mul_one] at hgrid
  -- the rounded difference is at most 1, so it does not overflow
  have hrange : |nearest (1 - r)| < limit := by
    rw [abs_of_nonneg (nearest_nonneg (by linarith)), limit]
    calc nearest (1 - r) ≤ nearest 1 := nearest_mono (by linarith)
      _ = 1 := hgrid
      _ < 2 ^ (1024 : ℤ) := one_lt_zpow₀ (by norm_num) (by norm_num)
  obtain ⟨hnan, hnumber⟩ := sub_spec isFinite_one h.isFinite
  rw [number_one, hr, ← EReal.coe_one, ← EReal.coe_sub, rounded_coe,
    overflow_of_abs_lt hrange] at hnumber
  have hfinite := isFinite_of_number_eq hnan hnumber
  refine ⟨nonneg_iff.mpr ⟨hnan, ?_⟩, hfinite, ?_⟩
  · rw [hnumber]
    exact EReal.coe_nonneg.mpr (nearest_nonneg (by linarith))
  · obtain ⟨hnan', hnumber'⟩ := add_spec h.isFinite hfinite
    refine le_iff.mpr ⟨hnan', by rfl, ?_⟩
    rw [hnumber', hr, hnumber, ← EReal.coe_add, rounded_coe, number_one]
    -- the exact sum may exceed 1 by the rounding of the difference, but it rounds to 1 at most
    calc overflow (nearest (r + nearest (1 - r)) : ℝ)
        ≤ overflow (1 : ℝ) :=
          overflow_mono (EReal.coe_le_coe_iff.mpr (nearest_add_complement_le hnonneg hle))
      _ = 1 := by rw [← hgrid, ← rounded_coe, EReal.coe_one, ← number_one, rounded_number]

end

end Binary64

/-! ### The factors -/

variable {share share' least : Float}

/-- What is stretched from 0 to 1 onto the numbers from a floor to 1 is not rounded out of them. -/
theorem stretched_inUnit (hshare : InUnit share) (hleast : InUnit least) :
    InUnit (stretched share least 1.0) := by
  obtain ⟨hnonneg, hfinite, hsum⟩ := complement_spec hleast
  have hproduct := Binary64.mul_nonneg hshare.isFinite hfinite hshare.nonneg hnonneg
  refine ⟨Binary64.add_nonneg hleast.nonneg hproduct, Binary64.le_trans ?_ hsum⟩
  exact add_le_add_of_nonneg hleast.nonneg hproduct (le_refl_of_nonneg hleast.nonneg)
    (inUnit_mul_le hnonneg hfinite hshare)

theorem stretched_mono (hleast : InUnit least) (hshare : InUnit share) (hshare' : InUnit share')
    (hle : share ≤ share') : stretched share least 1.0 ≤ stretched share' least 1.0 := by
  have hnan := isNaN_of_isFinite (stretched_inUnit hshare hleast).isFinite
  have hnan' := isNaN_of_isFinite (stretched_inUnit hshare' hleast).isFinite
  exact le_iff.mpr ⟨hnan, hnan',
    number_stretched_mono hleast.isFinite hleast.le_one (le_iff.mp hle).2.2 hnan hnan'⟩

theorem subscriptionFactor_inUnit (hleast : InUnit least) (subscribed : Bool) :
    InUnit (subscriptionFactor subscribed least) := by
  cases subscribed
  · exact hleast
  · exact inUnit_one

theorem subscriptionFactor_mono (hleast : InUnit least) {subscribed subscribed' : Bool}
    (h : subscribed = true → subscribed' = true) :
    subscriptionFactor subscribed least ≤ subscriptionFactor subscribed' least := by
  cases subscribed
  · cases subscribed'
    · exact le_refl_of_nonneg hleast.nonneg
    · exact hleast.le_one
  · rw [h rfl]
    exact le_refl_of_nonneg inUnit_one.nonneg

/-! ### Weights -/

namespace Settings

/-- Settings that pass their check have their ratios between 0 and 1. -/
theorem inUnit_of_check {settings : Settings} (hcheck : settings.check = .ok ()) :
    ∀ ratio ∈ settings.ratios, InUnit ratio.2 := by
  intro ratio hmem
  have hratio := (check_eq_ok_iff.mp hcheck).1 ratio hmem
  rw [isRatio, Bool.and_eq_true, decide_eq_true_eq, decide_eq_true_eq] at hratio
  exact ⟨hratio.1, hratio.2⟩

/-- The floors of the factors of weights. -/
structure HasFloors (settings : Settings) : Prop where
  source : InUnit settings.sourceSubscribedMin
  channel : InUnit settings.channelSubscribedMin
  visits : InUnit settings.sourceVisitsMin

theorem hasFloors_of_check {settings : Settings} (hcheck : settings.check = .ok ()) :
    settings.HasFloors where
  source := inUnit_of_check hcheck ("source_subscribed_min", _) (by simp [ratios])
  channel := inUnit_of_check hcheck ("channel_subscribed_min", _) (by simp [ratios])
  visits := inUnit_of_check hcheck ("source_visits_min", _) (by simp [ratios])

end Settings

namespace Signal

/-- Whether a signal lets an article be drawn: it does not block, and tells of a share of visits
and of a popularity. -/
structure Weighs (signal : Signal) : Prop where
  unblocked : signal.blocked = false
  visits : InUnit signal.sourceVisits
  popular : 0.0 ≤ signal.popRecency
  finite : signal.popRecency.isFinite = true

/-- Whether one signal tells of no more than another. -/
structure NoMoreThan (signal signal' : Signal) : Prop where
  visits : signal.sourceVisits ≤ signal'.sourceVisits
  popular : signal.popRecency ≤ signal'.popRecency
  source : signal.sourceSubscribed = true → signal'.sourceSubscribed = true
  channel : signal.channelSubscribed = true → signal'.channelSubscribed = true

variable {settings : Settings} {signal signal' : Signal}

theorem articleWeight_eq (signal : Signal) (settings : Settings) :
    signal.articleWeight settings =
      stretched signal.sourceVisits settings.sourceVisitsMin 1.0 * signal.popRecency *
        subscriptionFactor signal.sourceSubscribed settings.sourceSubscribedMin *
        subscriptionFactor signal.channelSubscribed settings.channelSubscribedMin :=
  rfl

/-- The popularity, weighed by the visits, lies between 0 and the popularity. -/
theorem visited_bounds (hfloors : settings.HasFloors) (h : signal.Weighs) :
    0.0 ≤ stretched signal.sourceVisits settings.sourceVisitsMin 1.0 * signal.popRecency ∧
      stretched signal.sourceVisits settings.sourceVisitsMin 1.0 * signal.popRecency ≤
        signal.popRecency := by
  have hvisits := stretched_inUnit h.visits hfloors.visits
  exact ⟨Binary64.mul_nonneg hvisits.isFinite h.finite hvisits.nonneg h.popular,
    inUnit_mul_le h.popular h.finite hvisits⟩

/-- A weight lies between 0 and the popularity. -/
theorem articleWeight_bounds (hfloors : settings.HasFloors) (h : signal.Weighs) :
    0.0 ≤ signal.articleWeight settings ∧ signal.articleWeight settings ≤ signal.popRecency := by
  have hsource := subscriptionFactor_inUnit hfloors.source signal.sourceSubscribed
  have hchannel := subscriptionFactor_inUnit hfloors.channel signal.channelSubscribed
  obtain ⟨hnonneg, hle⟩ := visited_bounds hfloors h
  have hfinite := isFinite_of_le hnonneg hle h.finite
  obtain ⟨hnonneg', hfinite'⟩ := mul_inUnit_bounds hnonneg hfinite hsource
  rw [articleWeight_eq]
  refine ⟨(mul_inUnit_bounds hnonneg' hfinite' hchannel).1, ?_⟩
  refine Binary64.le_trans (mul_le_of_inUnit hnonneg' hfinite' hchannel) ?_
  exact Binary64.le_trans (mul_le_of_inUnit hnonneg hfinite hsource) hle

/-- A signal that tells of no more gives no more weight. -/
theorem articleWeight_mono (hfloors : settings.HasFloors) (h : signal.Weighs) (h' : signal'.Weighs)
    (hle : signal.NoMoreThan signal') :
    signal.articleWeight settings ≤ signal'.articleWeight settings := by
  have hvisits := stretched_inUnit h.visits hfloors.visits
  have hvisits' := stretched_inUnit h'.visits hfloors.visits
  have hsource := subscriptionFactor_inUnit hfloors.source signal.sourceSubscribed
  have hsource' := subscriptionFactor_inUnit hfloors.source signal'.sourceSubscribed
  have hchannel := subscriptionFactor_inUnit hfloors.channel signal.channelSubscribed
  have hchannel' := subscriptionFactor_inUnit hfloors.channel signal'.channelSubscribed
  -- the products that are factors of the next ones
  obtain ⟨hnonneg, hbound⟩ := visited_bounds hfloors h
  obtain ⟨hnonneg', hbound'⟩ := visited_bounds hfloors h'
  have hfinite := isFinite_of_le hnonneg hbound h.finite
  have hfinite' := isFinite_of_le hnonneg' hbound' h'.finite
  have hproduct := mul_inUnit_bounds hnonneg hfinite hsource
  have hproduct' := mul_inUnit_bounds hnonneg' hfinite' hsource'
  have hvisited := mul_le_mul_of_le hvisits.nonneg h.popular
    (stretched_mono hfloors.visits h.visits h'.visits hle.visits) hle.popular hvisits'.isFinite
    h'.finite
  have hsubscribed := mul_le_mul_of_le hnonneg hsource.nonneg hvisited
    (subscriptionFactor_mono hfloors.source hle.source) hfinite' hsource'.isFinite
  rw [articleWeight_eq, articleWeight_eq]
  exact mul_le_mul_of_le hproduct.1 hchannel.nonneg hsubscribed
    (subscriptionFactor_mono hfloors.channel hle.channel) hproduct'.2 hchannel'.isFinite

end Signal

namespace Article

variable {settings : Settings}

theorem weight_of_weighs {article : Article} {signals : Signals} {signal : Signal}
    (hget : signals.get? article.url = some signal) (h : signal.Weighs) :
    article.weight signals settings = signal.articleWeight settings := by
  rw [weight, Signals.unblocked?_eq_some_iff.mpr ⟨hget, h.unblocked⟩]

/-- **Weights are bounded and monotone.**  Under settings that pass their check an article whose
signal does not block weighs between 0 and its popularity, and an article whose signal tells of no
more weighs no more, in the numbers that are computed. -/
theorem weight_bounded_and_monotone (hcheck : settings.check = .ok ()) :
    (∀ (article : Article) (signals : Signals) (signal : Signal),
      signals.get? article.url = some signal → signal.Weighs →
        0.0 ≤ article.weight signals settings ∧
          article.weight signals settings ≤ signal.popRecency) ∧
    ∀ (article article' : Article) (signals signals' : Signals) (signal signal' : Signal),
      signals.get? article.url = some signal → signals'.get? article'.url = some signal' →
        signal.Weighs → signal'.Weighs → signal.NoMoreThan signal' →
          article.weight signals settings ≤ article'.weight signals' settings := by
  have hfloors := Settings.hasFloors_of_check hcheck
  constructor
  · intro article signals signal hget h
    rw [weight_of_weighs hget h]
    exact Signal.articleWeight_bounds hfloors h
  · intro article article' signals signals' signal signal' hget hget' h h' hle
    rw [weight_of_weighs hget h, weight_of_weighs hget' h']
    exact Signal.articleWeight_mono hfloors h h' hle

/-- A floor with a complement that is rounded to 1, and popularities that are subnormal. -/
theorem weight_bounded_and_monotone_subnormal :
    (1.0 : Float) - 1e-17 = 1.0 ∧
      let settings : Settings := { sourceVisitsMin := 1e-17 }
      let less : Signal := { sourceVisits := 0.25, popRecency := 5e-323 }
      let more : Signal := { sourceVisits := 0.75, popRecency := 1e-320, channelSubscribed := true }
      let signals : Signals := Dict.ofList [("a", less), ("b", more)]
      let first : Article := { id := "1", publisherId := "p", url := "a" }
      let second : Article := { id := "2", publisherId := "p", url := "b" }
      settings.check = .ok () ∧ less.Weighs ∧ more.Weighs ∧ less.NoMoreThan more ∧
        (0.0 ≤ second.weight signals settings ∧ second.weight signals settings ≤ 1e-320) ∧
        first.weight signals settings ≤ second.weight signals settings := by
  refine ⟨by decide +kernel, ?_⟩
  intro settings less more signals first second
  have hcheck : settings.check = .ok () := by decide +kernel
  have hget : signals.get? first.url = some less := by decide +kernel
  have hget' : signals.get? second.url = some more := by decide +kernel
  have hless : less.Weighs :=
    ⟨rfl, ⟨by decide +kernel, by decide +kernel⟩, by decide +kernel, by decide +kernel⟩
  have hmore : more.Weighs :=
    ⟨rfl, ⟨by decide +kernel, by decide +kernel⟩, by decide +kernel, by decide +kernel⟩
  have hle : less.NoMoreThan more :=
    ⟨by decide +kernel, by decide +kernel, by decide, by decide⟩
  obtain ⟨hbounds, hmono⟩ := weight_bounded_and_monotone hcheck
  exact ⟨hcheck, hless, hmore, hle, hbounds second signals more hget' hmore,
    hmono first second signals signals less more hget hget' hless hmore hle⟩

end Article

end NewsFeed
