/-
Newer articles do not rank lower.

Of two articles with the same score, the one that was published later has no smaller popularity and
recency.  The order of instants is the order of the nanoseconds since the start of 1970, as long as
no leap second comes in, and so a later instant has no more whole hours behind it, however seconds
and hours are rounded.  The window of freshness is open to the future: what is in it stays in it
when it gets newer.

The decay is any function of the number of half-lives that falls from 1 and does not become negative
(`Decays`), as a power of one half does.

* `Before.nanos_lt`, `hoursSince_anti` — the order of instants and the hours between them;
* `ageHours_spec` — ages are floats without rounding;
* `newer_ranks_no_lower` — the same for the number that articles are ranked by.
-/
import NewsFeed.Proofs.Dividing
import NewsFeed.Proofs.Weighing
import NewsFeed.Proofs.Wholes
import NewsFeed.Recency

namespace NewsFeed

/-! ### Instants -/

namespace Time.Instant

variable {r s s' t : Instant}

/-- The nanoseconds from the start of 1970, leap seconds counted as seconds of their own. -/
def nanos (t : Instant) : ℤ :=
  (t.day * 86400 + t.second) * 1000000000 + t.nano

theorem nano_lt_of_ordinary (h : t.isLeap = false) : t.nano < 1000000000 := by
  simpa [isLeap] using h

theorem Before.trans (h : r.Before s) (h' : s.Before t) : r.Before t := by
  unfold Before at *
  omega

/-- An earlier instant has fewer nanoseconds, unless it lies in a leap second. -/
theorem Before.nanos_lt (h : s.Before t) (hs : s.isLeap = false) : s.nanos < t.nanos := by
  have hnano := nano_lt_of_ordinary hs
  have hsecond := s.second_lt
  unfold Before at h
  rw [nanos, nanos]
  omega

theorem nanosSince_of_ordinary (ht : t.isLeap = false) (hs : s.isLeap = false) :
    t.nanosSince s = t.nanos - s.nanos := by
  simp only [nanosSince, ht, hs, Bool.false_eq_true, and_false, if_false, nanos]
  ring

/-- The later something was, the fewer hours have passed since. -/
theorem hoursSince_anti (ht : t.isLeap = false) (hs : s.isLeap = false) (hs' : s'.isLeap = false)
    (h : s = s' ∨ s.Before s') : t.hoursSince s' ≤ t.hoursSince s := by
  rcases h with rfl | hbefore
  · exact le_rfl
  have hlt := hbefore.nanos_lt hs
  rw [hoursSince, hoursSince, nanosSince_of_ordinary ht hs, nanosSince_of_ordinary ht hs']
  refine Int.tdiv_le_tdiv (by norm_num) (Int.tdiv_le_tdiv (by norm_num) ?_)
  omega

/-- The range of time is far shorter than the hours that floats can count. -/
theorem hoursSince_le (ht : t.isLeap = false) (hs : s.isLeap = false) :
    t.hoursSince s ≤ 2 ^ 53 := by
  obtain ⟨-, hlast⟩ := t.day_range
  obtain ⟨hfirst, -⟩ := s.day_range
  have hnano := nano_lt_of_ordinary ht
  have hsecond := t.second_lt
  rw [lastDay] at hlast
  rw [firstDay] at hfirst
  have hnanos : t.nanos - s.nanos ≤ 2 ^ 53 * 3600 * 1000000000 := by
    rw [nanos, nanos]
    omega
  rw [hoursSince, nanosSince_of_ordinary ht hs]
  calc ((t.nanos - s.nanos).tdiv 1000000000).tdiv 3600
      ≤ ((2 ^ 53 * 3600 * 1000000000 : ℤ).tdiv 1000000000).tdiv 3600 :=
        Int.tdiv_le_tdiv (by norm_num) (Int.tdiv_le_tdiv (by norm_num) hnanos)
    _ = 2 ^ 53 := by rfl

end Time.Instant

open Binary64
open Time (Instant)

/-! ### Decay -/

/-- Whether a function of the number of half-lives falls from 1 and does not become negative. -/
structure Decays (decay : Float → Float) : Prop where
  start : decay 0.0 = 1.0
  nonneg : ∀ x, 0.0 ≤ x → 0.0 ≤ decay x
  anti : ∀ x y, 0.0 ≤ x → x ≤ y → decay y ≤ decay x

/-- A decay has values between 0 and 1. -/
theorem Decays.inUnit {decay : Float → Float} (h : Decays decay) {x : Float} (hx : 0.0 ≤ x) :
    InUnit (decay x) where
  nonneg := h.nonneg x hx
  le_one := by
    have hle := h.anti 0.0 x zero_nonneg hx
    rwa [h.start] at hle

namespace Article

/-! ### Ages -/

variable {now published published' freshSince : Instant} {settings : SignalSettings}

theorem ageHours_anti (hnow : now.isLeap = false) (hpublished : published.isLeap = false)
    (hpublished' : published'.isLeap = false)
    (h : published = published' ∨ published.Before published') :
    ageHours now published' ≤ ageHours now published :=
  Int.toNat_le_toNat (Instant.hoursSince_anti hnow hpublished hpublished' h)

/-- An age as a float is not rounded. -/
theorem ageHours_spec (hnow : now.isLeap = false) (hpublished : published.isLeap = false) :
    (Float.ofNat (ageHours now published)).isFinite = true ∧
      number (Float.ofNat (ageHours now published)) = (ageHours now published : ℝ) := by
  have hle := Instant.hoursSince_le hnow hpublished
  have hage : ageHours now published ≤ 2 ^ 53 := by
    rw [ageHours]
    omega
  obtain ⟨hfinite, hnumber⟩ := ofNat_spec (hage.trans (by norm_num))
  rw [nearest_natCast_of_le hage] at hnumber
  exact ⟨hfinite, hnumber⟩

/-- Later publications have no greater ages as floats. -/
theorem ofNat_ageHours_anti (hnow : now.isLeap = false) (hpublished : published.isLeap = false)
    (hpublished' : published'.isLeap = false)
    (h : published = published' ∨ published.Before published') :
    0.0 ≤ Float.ofNat (ageHours now published') ∧
      Float.ofNat (ageHours now published') ≤ Float.ofNat (ageHours now published) := by
  obtain ⟨hfinite, hnumber⟩ := ageHours_spec hnow hpublished
  obtain ⟨hfinite', hnumber'⟩ := ageHours_spec hnow hpublished'
  rw [nonneg_iff, le_iff, hnumber, hnumber']
  have hanti := ageHours_anti hnow hpublished hpublished' h
  refine ⟨⟨isNaN_of_isFinite hfinite', ?_⟩, isNaN_of_isFinite hfinite', isNaN_of_isFinite hfinite,
    ?_⟩
  · exact_mod_cast Nat.zero_le _
  · exact_mod_cast hanti

/-! ### Popularity and freshness -/

/-- What is fresh stays fresh when it gets newer. -/
theorem fresh_of_newer (h : published = published' ∨ published.Before published')
    (hfresh : freshSince.Before published) : freshSince.Before published' := by
  rcases h with rfl | hbefore
  · exact hfresh
  · exact hfresh.trans hbefore

/-- The popularity depends on the number of the score only. -/
theorem popularity_of_beq {article article' : Article}
    (hscore : (article.score == article'.score) = true)
    (hpopularity : (article.popularity settings).isFinite = true) :
    (article'.popularity settings).isFinite = true ∧
      number (article'.popularity settings) = number (article.popularity settings) := by
  obtain ⟨hnan, hnan', hnumber⟩ := beq_iff.mp hscore
  have hzero : (article'.score == 0.0) = (article.score == 0.0) := by
    rw [Bool.eq_iff_iff, beq_iff, beq_iff, hnan, hnan', hnumber]
  unfold popularity at hpopularity ⊢
  rw [hzero]
  split_ifs at hpopularity ⊢ with h
  · exact ⟨hpopularity, rfl⟩
  · obtain ⟨r, hr⟩ := exists_number_eq hpopularity
    exact ⟨isFinite_of_number_eq hnan' (hnumber.symm.trans hr), hnumber.symm⟩

/-- Factors that stand for the same number have products that do. -/
theorem mul_congr_of_isFinite {x y y' : Float} (hy : y.isFinite = true) (hy' : y'.isFinite = true)
    (hnumber : number y' = number y) (h : (x * y).isFinite = true) :
    (x * y').isFinite = true ∧ number (x * y') = number (x * y) := by
  have hproduct : number (x * y') = number (x * y) := by rw [number_mul, number_mul, hnumber]
  have hnan : (x * y').isNaN = (x * y).isNaN := by
    rw [Bool.eq_iff_iff, isNaN_mul_iff, isNaN_mul_iff, hnumber, isNaN_of_isFinite hy,
      isNaN_of_isFinite hy']
  obtain ⟨r, hr⟩ := exists_number_eq h
  exact ⟨isFinite_of_number_eq (hnan.trans (isNaN_of_isFinite h)) (hproduct.trans hr), hproduct⟩

section

variable {popularity : Float} (hmultiplier : 1.0 ≤ settings.freshMultiplier)
  (hnonneg : 0.0 ≤ popularity) (hfinite : popularity.isFinite = true)
  (hboosted : (settings.freshMultiplier * popularity).isFinite = true)

include hmultiplier hnonneg hfinite

/-- A popularity is not smaller with the factor for what is fresh. -/
theorem one_mul_le_boosted (hboosted : (settings.freshMultiplier * popularity).isFinite = true) :
    0.0 ≤ 1.0 * popularity ∧ 1.0 * popularity ≤ settings.freshMultiplier * popularity := by
  have hpositive := (nonneg_iff.mp hnonneg).2
  have hone : number (1.0 * popularity) = number popularity := by
    rw [number_mul, number_one, one_mul, rounded_number]
  have hnan := (mul_spec isFinite_one hfinite).1
  have hle := (le_iff.mp hmultiplier).2.2
  rw [number_one] at hle
  rw [nonneg_iff, le_iff, hone]
  refine ⟨⟨hnan, hpositive⟩, hnan, isNaN_of_isFinite hboosted, ?_⟩
  calc number popularity = rounded (1 * number popularity) := by rw [one_mul, rounded_number]
    _ ≤ rounded (number settings.freshMultiplier * number popularity) :=
      rounded_mono (mul_le_mul_of_nonneg_right hle hpositive)
    _ = number (settings.freshMultiplier * popularity) := (number_mul _ _).symm

/-- Getting newer makes the popularity with its factor no smaller. -/
theorem freshness_mul_mono (hboosted : (settings.freshMultiplier * popularity).isFinite = true)
    (h : published = published' ∨ published.Before published') (freshSince : Instant) :
    0.0 ≤ freshness settings freshSince published * popularity ∧
      freshness settings freshSince published * popularity ≤
        freshness settings freshSince published' * popularity ∧
      (freshness settings freshSince published' * popularity).isFinite = true := by
  obtain ⟨hone, hle⟩ := one_mul_le_boosted hmultiplier hnonneg hfinite hboosted
  have honeFinite := isFinite_of_le hone hle hboosted
  have hboost := Binary64.le_trans hone hle
  unfold freshness
  by_cases hfresh : freshSince.Before published
  · -- the older one is fresh, and so is the newer one
    rw [if_pos hfresh, if_pos (fresh_of_newer h hfresh)]
    exact ⟨hboost, le_refl_of_nonneg hboost, hboosted⟩
  · rw [if_neg hfresh]
    split_ifs
    · exact ⟨hone, hle, hboosted⟩
    · exact ⟨hone, le_refl_of_nonneg hone, honeFinite⟩

end

/-! ### Ranks -/

/-- The popularity and recency of an article with a time of publication. -/
theorem popRecencyWith_eq_some_iff {decay : Float → Float} {article : Article}
    (hpublished : article.publishTime = some published) {recency : Float} :
    article.popRecencyWith decay settings now = some recency ↔
      ∃ freshSince, now.hoursBefore? settings.freshWindowHours.toInt = some freshSince ∧
        freshness settings freshSince published * article.popularity settings *
          decay (Float.ofNat (ageHours now published) / settings.halfLifeHours) = recency := by
  rw [popRecencyWith, hpublished]
  exact Option.map_eq_some_iff

/-- **Newer never ranks lower.**  Of two articles with the same score, which makes for a popularity
that is finite even when it is raised, the one published later has no greater age, is fresh if the
other one is, and has no smaller popularity and recency.  The times may lie anywhere in the range,
in the future of the clock as well, but in no leap second; the window of freshness may be negative,
and the half-life infinite. -/
theorem newer_ranks_no_lower {decay : Float → Float} (hdecay : Decays decay)
    (hhalf : 0.0 < settings.halfLifeHours) (hmultiplier : 1.0 ≤ settings.freshMultiplier)
    {article article' : Article} (hscore : (article.score == article'.score) = true)
    (hnonneg : 0.0 ≤ article.popularity settings)
    (hfinite : (article.popularity settings).isFinite = true)
    (hboosted : (settings.freshMultiplier * article.popularity settings).isFinite = true)
    (hpublished : article.publishTime = some published)
    (hpublished' : article'.publishTime = some published')
    (horder : published = published' ∨ published.Before published')
    (hordinary : now.isLeap = false ∧ published.isLeap = false ∧ published'.isLeap = false)
    {recency : Float} (h : article.popRecencyWith decay settings now = some recency) :
    ageHours now published' ≤ ageHours now published ∧
    (0.0 ≤ Float.ofNat (ageHours now published') ∧
      Float.ofNat (ageHours now published') ≤ Float.ofNat (ageHours now published)) ∧
    (∃ freshSince, now.hoursBefore? settings.freshWindowHours.toInt = some freshSince ∧
      (freshSince.Before published → freshSince.Before published')) ∧
    ∃ recency', article'.popRecencyWith decay settings now = some recency' ∧
      recency ≤ recency' := by
  obtain ⟨hnow, hleap, hleap'⟩ := hordinary
  obtain ⟨hage, hages⟩ := ofNat_ageHours_anti hnow hleap hleap' horder
  obtain ⟨freshSince, hwindow, rfl⟩ := (popRecencyWith_eq_some_iff hpublished).mp h
  refine ⟨ageHours_anti hnow hleap hleap' horder, ⟨hage, hages⟩,
    ⟨freshSince, hwindow, fresh_of_newer horder⟩, _,
    (popRecencyWith_eq_some_iff hpublished').mpr ⟨freshSince, hwindow, rfl⟩, ?_⟩
  -- the popularity as it is raised
  obtain ⟨hraised, hraises, hraisedFinite⟩ :=
    freshness_mul_mono hmultiplier hnonneg hfinite hboosted horder freshSince
  obtain ⟨hfinite', hnumber⟩ := popularity_of_beq hscore hfinite
  obtain ⟨hraisedFinite', hnumber'⟩ := mul_congr_of_isFinite hfinite hfinite' hnumber hraisedFinite
  obtain ⟨hnan, -, hle⟩ := le_iff.mp hraises
  rw [← hnumber'] at hle
  -- the decay
  obtain ⟨hhalves, hfewer⟩ := div_le_div_of_pos hage hages (ageHours_spec hnow hleap).1 hhalf
  have hdecayed := hdecay.inUnit (Binary64.le_trans hhalves hfewer)
  exact mul_le_mul_of_le hraised hdecayed.nonneg
    (le_iff.mpr ⟨hnan, isNaN_of_isFinite hraisedFinite', hle⟩)
    (hdecay.anti _ _ hhalves hfewer) hraisedFinite' (hdecay.inUnit hhalves).isFinite

/-- A decay that halves once, when the first half-life is over. -/
def halvedOnce (x : Float) : Float :=
  if x < 1.0 then 1.0 else 0.5

theorem decays_halvedOnce : Decays halvedOnce where
  start := by decide +kernel
  nonneg x _ := by
    rw [halvedOnce]
    split_ifs <;> decide +kernel
  anti x y _ hle := by
    rw [halvedOnce, halvedOnce]
    by_cases hy : y < 1.0
    · rw [if_pos hy, if_pos (Binary64.lt_of_le_of_lt hle hy)]
      decide +kernel
    · rw [if_neg hy]
      split_ifs <;> decide +kernel

/-- The given number of hours before the last hour of a day. -/
def hoursAgo (hours : ℕ) : Instant where
  day := 20000
  second := 3600 * (23 - hours)
  nano := 750000000
  day_range := by decide
  second_lt := by omega
  nano_lt := by decide
  leap_ends_minute h := absurd h (by decide)

theorem newer_ranks_no_lower_halved :
    ∃ recency, Article.popRecencyWith halvedOnce ⟨"b", "p", "v", 10.0, some (hoursAgo 0)⟩ {}
        (hoursAgo 0) = some recency ∧ 5.0 ≤ recency := by
  have hpopRecency : Article.popRecencyWith halvedOnce ⟨"a", "p", "u", 10.0, some (hoursAgo 18)⟩ {}
      (hoursAgo 0) = some 5.0 := by decide +kernel
  have hscore : ((⟨"a", "p", "u", 10.0, some (hoursAgo 18)⟩ : Article).score ==
      (⟨"b", "p", "v", 10.0, some (hoursAgo 0)⟩ : Article).score) = true := by decide +kernel
  obtain ⟨-, -, -, recency, hrecency, hle⟩ := newer_ranks_no_lower decays_halvedOnce
    (by decide +kernel) (by decide +kernel) hscore (by decide +kernel) (by decide +kernel)
    (by decide +kernel) rfl rfl (by decide) (by decide) hpopRecency
  exact ⟨recency, hrecency, hle⟩

end Article

end NewsFeed
