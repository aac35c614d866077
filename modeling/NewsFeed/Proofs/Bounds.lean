/-
Weights of channels, and which bounds for them are safe.

A channel weighs as much as its share of the visits, projected between two bounds from the settings,
times a factor for the subscription.  The check of the settings compares these bounds with each
other and with nothing else, so that both may be negative or infinite.  Such bounds do show in the
weights: a channel without visits weighs the lower bound, and one with all visits weighs an infinite
upper bound.  Otherwise no weight is bad, and a draw can only fail for the sum of the weights.

* `project_of_isNaN_least`, `project_of_isNaN_greatest` — a bound that is no number gives way to the
  other one;
* `weight_not_isBad` — safe bounds give no bad weight;
* `HasSafeBounds.of_weights` — bounds that give no bad weight are safe;
* `eq_infinity_of_error` — weights of which none is bad can only overflow;
* `safe_bounds_iff_weights_good` — all of this for settings that pass their check.
-/
import NewsFeed.Generators
import NewsFeed.Proofs.Draws
import NewsFeed.Proofs.Weighing

namespace NewsFeed

open Binary64

/-! ### Projections between bounds of which one is no number -/

section

variable {value least greatest : Float}

theorem project_eq_smaller (hvalue : value.isNaN = false)
    (hstretched : (stretched value least greatest).isNaN = true) :
    project value least greatest = smaller least greatest := by
  have hlarger : larger (stretched value least greatest) least = least := if_pos hstretched
  rw [project, hvalue, if_neg Bool.false_ne_true]
  exact congrArg (smaller · greatest) hlarger

/-- Without a lower bound everything is projected to the upper one. -/
theorem project_of_isNaN_least (hvalue : value.isNaN = false) (hleast : least.isNaN = true) :
    project value least greatest = greatest := by
  rw [project_eq_smaller hvalue (isNaN_add_of_isNaN (.inl hleast)), smaller, if_pos hleast]

/-- Without an upper bound everything is projected to the lower one. -/
theorem project_of_isNaN_greatest (hvalue : value.isNaN = false) (hleast : least.isNaN = false)
    (hgreatest : greatest.isNaN = true) : project value least greatest = least := by
  have hlength : (greatest - least).isNaN = true := isNaN_sub_of_isNaN (.inl hgreatest)
  have hstretched : (stretched value least greatest).isNaN = true :=
    isNaN_add_of_isNaN (.inr (isNaN_mul_of_isNaN (.inr hlength)))
  have hnot : ¬ greatest < least := fun hlt => by
    cases (lt_iff.mp hlt).1.symm.trans hgreatest
  rw [project_eq_smaller hvalue hstretched, smaller, hleast, if_neg Bool.false_ne_true,
    if_neg hnot]

/-- A value of 0 is projected to the lower bound. -/
theorem number_project_zero (h : least ≤ greatest) :
    number (project 0.0 least greatest) = number least := by
  refine number_project_of_le h isNaN_zero fun hnan => ?_
  rw [number_stretched hnan, number_zero, zero_mul, rounded_zero, add_zero, rounded_number]

/-- A value of 1 is projected to an infinite upper bound. -/
theorem number_project_one (hleast : least.isFinite = true) (h : least ≤ greatest)
    (htop : number greatest = ⊤) : number (project 1.0 least greatest) = ⊤ := by
  obtain ⟨hnan, hnotTop, hnotBot⟩ := isFinite_iff.mp hleast
  obtain ⟨hlength, hnumber⟩ := sub_spec_of_isFinite (le_iff.mp h).2.1 hleast
  obtain ⟨r, hr⟩ := exists_number_eq hleast
  -- the length of an interval that ends in infinity is infinity
  rw [htop, hr, EReal.top_sub_coe, rounded_top] at hnumber
  have hproduct : number (1.0 * (greatest - least)) = ⊤ := by
    rw [number_mul, number_one, hnumber, one_mul, rounded_top]
  have hproductNaN : (1.0 * (greatest - least)).isNaN = false := by
    rw [← Bool.not_eq_true, isNaN_mul_iff, isNaN_of_isFinite isFinite_one, number_one, hlength,
      hnumber]
    simp
  -- an infinity is only lost in a sum with the other one, and `least` is finite
  have hstretchedNaN : (stretched 1.0 least greatest).isNaN = false := by
    rw [stretched, ← Bool.not_eq_true, isNaN_add_iff, hnan, hproductNaN]
    simp [hnotTop, hnotBot]
  have hstretched : number (stretched 1.0 least greatest) = ⊤ := by
    rw [stretched, number_add hstretchedNaN, hproduct, EReal.add_top_of_ne_bot hnotBot, rounded_top]
  rw [(number_project h (isNaN_of_isFinite isFinite_one)).2, hstretchedNaN, hstretched, htop]
  simp

end

/-! ### Bad weights -/

namespace Lottery

variable {weight weight' : Float} {weights : List Float}

theorem not_isBad_iff_number :
    ¬ IsBad weight ↔ weight.isNaN = false ∧ 0 ≤ number weight ∧ number weight ≠ ⊤ := by
  rw [not_isBad_iff, isFinite_iff, nonneg_iff]
  constructor
  · rintro ⟨⟨hnan, htop, -⟩, -, hnonneg⟩
    exact ⟨hnan, hnonneg, htop⟩
  · rintro ⟨hnan, hnonneg, htop⟩
    exact ⟨⟨hnan, htop, (EReal.bot_lt_zero.trans_le hnonneg).ne'⟩, hnan, hnonneg⟩

/-- A factor between 0 and 1 makes no weight bad. -/
theorem inUnit_mul_not_isBad {factor : Float} (hfactor : InUnit factor) (h : ¬ IsBad weight) :
    ¬ IsBad (factor * weight) := by
  obtain ⟨hfinite, hnonneg⟩ := not_isBad_iff.mp h
  have hproduct := Binary64.mul_nonneg hfactor.isFinite hfinite hfactor.nonneg hnonneg
  exact not_isBad_iff.mpr
    ⟨isFinite_of_le hproduct (inUnit_mul_le hnonneg hfinite hfactor) hfinite, hproduct⟩

theorem not_isBad_of_one_mul (h : ¬ IsBad (1.0 * weight)) : ¬ IsBad weight := by
  rw [not_isBad_iff_number, number_mul, number_one, one_mul, rounded_number] at h
  refine not_isBad_iff_number.mpr ⟨?_, h.2⟩
  by_contra hnan
  cases h.1.symm.trans (isNaN_mul_of_isNaN (.inr (by simpa using hnan)))

/-- Weights of which none is bad can only overflow. -/
theorem eq_infinity_of_error (hgood : ∀ weight ∈ weights, ¬ IsBad weight)
    (h : ofWeights weights = .error (.badWeight weight)) :
    weight = infinity ∧ (sum weights).isFinite = false := by
  obtain ⟨verdict, hverdict⟩ := exists_verdict weights
  cases verdict with
  | none =>
    obtain ⟨lottery, hok⟩ := exists_ok_iff_verdict.mpr hverdict
    cases h.symm.trans hok
  | some cause =>
    obtain rfl : PickError.badWeight weight = cause :=
      Except.error.inj (h.symm.trans (ofWeights_of_verdict hverdict))
    cases hverdict with
    | bad _ hbad => exact absurd hbad (hgood _ (by simp))
    | overflow _ hinfinite => exact ⟨rfl, hinfinite⟩

end Lottery

open Lottery

/-! ### Channels -/

/-- Whether every signal tells of a share of the visits to channels. -/
def Signals.HaveShares (signals : Signals) : Prop :=
  ∀ key signal, signals.get? key = some signal → InUnit signal.channelVisits

theorem Signals.haveShares_empty : (∅ : Signals).HaveShares := fun _ _ hget => by
  cases hget

theorem Signals.HaveShares.insert {signals : Signals} {signal : Signal} (h : signals.HaveShares)
    (hsignal : InUnit signal.channelVisits) (key : String) :
    HaveShares (Dict.insert signals key signal) := by
  intro key' signal' hget
  rw [Dict.get?_insert] at hget
  split_ifs at hget
  · rwa [← Option.some.inj hget]
  · exact h key' signal' hget

/-- Whether the bounds for the visits to channels, as far as they are numbers, are finite and not
negative. -/
structure Settings.HasSafeBounds (settings : Settings) : Prop where
  least : settings.channelVisitsMin.isNaN = false → ¬ IsBad settings.channelVisitsMin
  greatest : settings.channelVisitsMax.isNaN = false → ¬ IsBad settings.channelVisitsMax

/-- Whether there is a bound for the visits to channels that is a number. -/
def Settings.HasBound (settings : Settings) : Prop :=
  settings.channelVisitsMin.isNaN = false ∨ settings.channelVisitsMax.isNaN = false

variable {settings : Settings}

/-- The check of the settings lets a NaN pass, and otherwise finds the bounds in order. -/
theorem Settings.bounds_cases (hcheck : settings.check = .ok ()) :
    settings.channelVisitsMin.isNaN = true ∨
      settings.channelVisitsMin.isNaN = false ∧ settings.channelVisitsMax.isNaN = true ∨
      settings.channelVisitsMin ≤ settings.channelVisitsMax := by
  obtain ⟨-, -, hnot, -⟩ := Settings.check_eq_ok_iff.mp hcheck
  cases hleast : settings.channelVisitsMin.isNaN with
  | true => exact .inl rfl
  | false =>
    cases hgreatest : settings.channelVisitsMax.isNaN with
    | true => exact .inr (.inl ⟨rfl, rfl⟩)
    | false =>
      refine .inr (.inr ?_)
      by_contra hle
      exact hnot (lt_of_not_le hleast hgreatest hle)

/-- Between safe bounds no share of the visits is projected to a bad weight. -/
theorem project_not_isBad {value : Float} (hvalue : InUnit value)
    (hcheck : settings.check = .ok ()) (hbound : settings.HasBound)
    (hsafe : settings.HasSafeBounds) :
    ¬ IsBad (project value settings.channelVisitsMin settings.channelVisitsMax) := by
  have hnan := isNaN_of_isFinite hvalue.isFinite
  rcases Settings.bounds_cases hcheck with hleast | ⟨hleast, hgreatest⟩ | hle
  · rw [project_of_isNaN_least hnan hleast]
    exact hsafe.greatest (hbound.resolve_left fun hnot => by cases hnot.symm.trans hleast)
  · rw [project_of_isNaN_greatest hnan hleast hgreatest]
    exact hsafe.least hleast
  · obtain ⟨hleast, hgreatest, -⟩ := le_iff.mp hle
    obtain ⟨hlow, hhigh⟩ := project_bounds hle value
    have hnonneg := Binary64.le_trans (not_isBad_iff.mp (hsafe.least hleast)).2 hlow
    have hfinite := (not_isBad_iff.mp (hsafe.greatest hgreatest)).1
    exact not_isBad_iff.mpr ⟨isFinite_of_le hnonneg hhigh hfinite, hnonneg⟩

/-- Bounds in order are good weights if 0 and 1 are not projected to bad ones: the lower bound is what
0 is projected to, and an infinite upper bound is what 1 is projected to. -/
theorem bounds_not_isBad {least greatest : Float} (h : least ≤ greatest)
    (hzero : ¬ IsBad (project 0.0 least greatest)) (hone : ¬ IsBad (project 1.0 least greatest)) :
    ¬ IsBad least ∧ ¬ IsBad greatest := by
  obtain ⟨hleast, hgreatest, hle⟩ := le_iff.mp h
  obtain ⟨-, hnonneg, htop⟩ := not_isBad_iff_number.mp hzero
  rw [number_project_zero h] at hnonneg htop
  have hleast' : ¬ IsBad least := not_isBad_iff_number.mpr ⟨hleast, hnonneg, htop⟩
  refine ⟨hleast', not_isBad_iff_number.mpr ⟨hgreatest, hnonneg.trans hle, fun hinfinite => ?_⟩⟩
  have hfinite := (not_isBad_iff.mp hleast').1
  exact (not_isBad_iff_number.mp hone).2.2 (number_project_one hfinite h hinfinite)

namespace Channel

/-- Safe bounds give no bad weight. -/
theorem weight_not_isBad (hcheck : settings.check = .ok ()) (hbound : settings.HasBound)
    (hsafe : settings.HasSafeBounds) {signals : Signals} (hshares : signals.HaveShares)
    (channel : Channel) : ¬ IsBad (channel.weight signals settings) := by
  unfold weight
  split
  · rename_i signal hsignal
    obtain ⟨hget, -⟩ := Signals.unblocked?_eq_some_iff.mp hsignal
    have hfloor := (Settings.hasFloors_of_check hcheck).channel
    exact inUnit_mul_not_isBad (subscriptionFactor_inUnit hfloor signal.channelSubscribed)
      (project_not_isBad (hshares channel.name signal hget) hcheck hbound hsafe)
  · exact not_isBad_iff.mpr ⟨by rfl, zero_nonneg⟩

theorem weight_of_subscribed (name : String) (visits : Float) (settings : Settings) :
    weight ⟨name⟩
        (Dict.insert ∅ name { channelSubscribed := true, channelVisits := visits }) settings =
      1.0 * project visits settings.channelVisitsMin settings.channelVisitsMax := by
  have hget := Dict.get?_insert ∅ name name
    ({ channelSubscribed := true, channelVisits := visits } : Signal)
  rw [if_pos rfl] at hget
  rw [weight, Signals.unblocked?_eq_some_iff.mpr ⟨hget, rfl⟩]
  rfl

end Channel

/-- Bounds that give no bad weight are safe. -/
theorem Settings.HasSafeBounds.of_weights (hcheck : settings.check = .ok ())
    (h : ∀ signals : Signals, signals.HaveShares →
      ∀ channel : Channel, ¬ IsBad (channel.weight signals settings)) :
    settings.HasSafeBounds := by
  -- a subscribed channel gets the projection of its share, and every share in `[0, 1]` is one of
  -- some signals
  have hproject {value : Float} (hvalue : InUnit value) :
      ¬ IsBad (project value settings.channelVisitsMin settings.channelVisitsMax) := by
    refine not_isBad_of_one_mul ?_
    rw [← Channel.weight_of_subscribed ""]
    exact h _ (Signals.haveShares_empty.insert hvalue "") ⟨""⟩
  -- the share 0 is weighed by the lower bound, the share 1 by the upper one
  have hzero := hproject ⟨zero_nonneg, by decide +kernel⟩
  rcases bounds_cases hcheck with hleast | ⟨hleast, hgreatest⟩ | hle
  · rw [project_of_isNaN_least isNaN_zero hleast] at hzero
    exact ⟨fun hnot => (Bool.false_ne_true (hnot.symm.trans hleast)).elim, fun _ => hzero⟩
  · rw [project_of_isNaN_greatest isNaN_zero hleast hgreatest] at hzero
    exact ⟨fun _ => hzero, fun hnot => (Bool.false_ne_true (hnot.symm.trans hgreatest)).elim⟩
  · obtain ⟨hleast, hgreatest⟩ := bounds_not_isBad hle hzero (hproject inUnit_one)
    exact ⟨fun _ => hleast, fun _ => hgreatest⟩

/-! ### Drawing a channel -/

namespace Cluster

/-- Draws the channel that a cluster is made of. -/
def drawChannel (snapshot : Snapshot) (settings : Settings) :
    Draw (Except PickError (Channel × List Channel)) :=
  Draw.pick snapshot.channels fun channel => channel.weight snapshot.signals settings

theorem generateRandom_eq (snapshot : Snapshot) (settings : Settings) :
    generateRandom snapshot settings = do
      match ← drawChannel snapshot settings with
      | .ok (channel, _) => generate snapshot channel.name settings
      | .error _ => return (none, snapshot) :=
  rfl

/-- Among weights of which none is bad, only their sum makes the draw of a channel fail. -/
theorem eq_infinity_of_drawChannel {snapshot : Snapshot} {tape tape' : Tape} {weight : Float}
    (hgood : ∀ channel : Channel, ¬ IsBad (channel.weight snapshot.signals settings))
    (h : drawChannel snapshot settings tape = some (.error (.badWeight weight), tape')) :
    weight = infinity ∧
      (sum (snapshot.channels.map (·.weight snapshot.signals settings))).isFinite = false := by
  rcases Draw.pick_cases snapshot.channels (fun channel =>
    channel.weight snapshot.signals settings) tape with
    ⟨cause, herror, hpick⟩ | ⟨_, _, _, -, -, -, hpick⟩
  · obtain ⟨hcause, -⟩ := Prod.mk.inj (Option.some.inj (h.symm.trans hpick))
    rw [← Except.error.inj hcause] at herror
    refine eq_infinity_of_error (fun weight hmem => ?_) herror
    obtain ⟨channel, -, rfl⟩ := List.mem_map.mp hmem
    exact hgood channel
  · cases h.symm.trans hpick

end Cluster

/-- **Safe bounds are those that give no bad weight.**  Under settings that pass their check and
have a bound for the visits, no channel weighs less than 0 or infinitely much, whatever the signals
tell of its share, exactly if the bounds are finite and not negative as far as they are numbers; and
then the draw of a channel fails for a bad weight only where the sum of all of them overflows. -/
theorem safe_bounds_iff_weights_good (hcheck : settings.check = .ok ())
    (hbound : settings.HasBound) :
    (settings.HasSafeBounds ↔ ∀ signals : Signals, signals.HaveShares → ∀ channel : Channel,
      (channel.weight signals settings).isFinite = true ∧
        0.0 ≤ channel.weight signals settings) ∧
    (settings.HasSafeBounds → ∀ snapshot : Snapshot, snapshot.signals.HaveShares →
      ∀ (tape tape' : Tape) (weight : Float),
        Cluster.drawChannel snapshot settings tape = some (.error (.badWeight weight), tape') →
          weight = infinity ∧
            (sum (snapshot.channels.map (·.weight snapshot.signals settings))).isFinite =
              false) := by
  refine ⟨⟨fun hsafe signals hshares channel => ?_, fun h => ?_⟩,
    fun hsafe snapshot hshares tape tape' weight hdraw => ?_⟩
  · exact not_isBad_iff.mp (channel.weight_not_isBad hcheck hbound hsafe hshares)
  · exact .of_weights hcheck fun signals hshares channel =>
      not_isBad_iff.mpr (h signals hshares channel)
  · exact Cluster.eq_infinity_of_drawChannel
      (Channel.weight_not_isBad hcheck hbound hsafe hshares) hdraw

/-- Two channels with safe weights that overflow when they are added. -/
theorem safe_bounds_iff_weights_good_overflowing :
    let settings : Settings := { channelVisitsMin := 0.0, channelVisitsMax := 1.7e308 }
    let signal : Signal := { channelSubscribed := true, channelVisits := 1.0 }
    let signals : Signals := Dict.ofList [("Sport", signal), ("Tech", signal)]
    let snapshot : Snapshot := { signals, channels := [⟨"Sport"⟩, ⟨"Tech"⟩] }
    settings.check = .ok () ∧ settings.HasBound ∧ settings.HasSafeBounds ∧ signals.HaveShares ∧
      (∀ channel : Channel, (channel.weight signals settings).isFinite = true ∧
        0.0 ≤ channel.weight signals settings) ∧
      ∀ tape, Cluster.drawChannel snapshot settings tape =
          some (.error (.badWeight infinity), tape) ∧
        (sum (snapshot.channels.map (·.weight snapshot.signals settings))).isFinite = false := by
  intro settings signal signals snapshot
  have hcheck : settings.check = .ok () := by decide +kernel
  have hbound : settings.HasBound := .inl (by decide +kernel)
  have hsafe : settings.HasSafeBounds :=
    ⟨fun _ => not_isBad_iff.mpr ⟨by decide +kernel, by decide +kernel⟩,
      fun _ => not_isBad_iff.mpr ⟨by decide +kernel, by decide +kernel⟩⟩
  have hshares : signals.HaveShares :=
    (Signals.haveShares_empty.insert inUnit_one "Sport").insert inUnit_one "Tech"
  have hdraw (tape : Tape) : Cluster.drawChannel snapshot settings tape =
      some (.error (.badWeight infinity), tape) :=
    Draw.pick_of_error (by decide +kernel) tape
  obtain ⟨hiff, hoverflow⟩ := safe_bounds_iff_weights_good hcheck hbound
  exact ⟨hcheck, hbound, hsafe, hshares, hiff.mp hsafe signals hshares, fun tape =>
    ⟨hdraw tape, (hoverflow hsafe snapshot hshares tape tape infinity (hdraw tape)).2⟩⟩

/-- A negative bound passes the check, and the weight of a channel without visits makes the draw
fail. -/
theorem negative_bound_fails_draw :
    let settings : Settings := { channelVisitsMin := -1.0 }
    let unvisited : Signal := { channelSubscribed := true }
    let visited : Signal := { channelSubscribed := true, channelVisits := 1.0 }
    let signals : Signals := Dict.ofList [("Tech", unvisited), ("World", visited)]
    let snapshot : Snapshot := { signals, channels := [⟨"Tech"⟩, ⟨"World"⟩] }
    settings.check = .ok () ∧ signals.HaveShares ∧
      snapshot.channels.map (·.weight signals settings) = [-1.0, 1.0] ∧
      ¬ 0.0 ≤ Channel.weight ⟨"Tech"⟩ signals settings ∧
      ∀ tape, Cluster.drawChannel snapshot settings tape =
        some (.error (.badWeight (-1.0)), tape) := by
  intro settings unvisited visited signals snapshot
  have hunvisited : InUnit unvisited.channelVisits := ⟨zero_nonneg, by decide +kernel⟩
  have hshares : signals.HaveShares :=
    (Signals.haveShares_empty.insert hunvisited "Tech").insert inUnit_one "World"
  refine ⟨by decide +kernel, hshares, by decide +kernel, by decide +kernel, fun tape => ?_⟩
  exact Draw.pick_of_error (by decide +kernel) tape

end NewsFeed
