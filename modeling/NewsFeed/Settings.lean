/-
Settings: the numbers that steer how feeds are made (`Settings`) and how signals are derived
(`SignalSettings`).

`Settings.check` says whether the settings make sense; it reports the first of its rules that is
broken.
-/
import NewsFeed.Decimal.Layout
import NewsFeed.Json.Source

namespace NewsFeed

open Json (Source Scalars Fields Values)

/-- How feeds are made. -/
structure Settings where
  /-- The least number of articles below a hero. -/
  blockMinInline : UInt64 := 1
  /-- The greatest number of articles below a hero. -/
  blockMaxInline : UInt64 := 5
  /-- The probability that an article below a hero is looked for among unvisited publishers. -/
  inlineDiscoveryRatio : Float := 0.25
  /-- A special card may stand only at iterations divisible by this. -/
  specialCardEveryN : UInt64 := 2
  /-- The probability that a special card is an advert. -/
  adsToDiscoverRatio : Float := 0.5
  /-- The greatest number of publishers on a discover card. -/
  discoverCardSize : UInt64 := 3
  /-- The weight factor of an article whose publisher is not subscribed to. -/
  sourceSubscribedMin : Float := 1e-5
  /-- The weight factor of an article or channel that is not subscribed to. -/
  channelSubscribedMin : Float := 0.01
  /-- The weight factor of a channel that was never visited. -/
  channelVisitsMin : Float := 0.5
  /-- The weight factor of a channel that got all visits. -/
  channelVisitsMax : Float := 1.0
  /-- The weight factor of an article whose publisher was never visited. -/
  sourceVisitsMin : Float := 0.2
  /-- The channel of the second step. -/
  topNewsChannel : String := "Top News"
  /-- The greatest number of iterations. -/
  maxIterations : UInt64 := 10000
  /-- Where the draws start, if they are to be reproducible. -/
  seed : Option UInt64 := none
  deriving DecidableEq, Repr

/-- Which rule the settings break. -/
inductive SettingsFault where
  /-- A probability or factor lies outside of 0 to 1. -/
  | ratio (name : String) (value : Float)
  /-- The least number of inline articles exceeds the greatest. -/
  | inlineBounds (least greatest : UInt64)
  /-- The least factor for channel visits exceeds the greatest. -/
  | visitBounds (least greatest : Float)
  /-- Special cards would stand at every zeroth iteration. -/
  | noCardInterval
  /-- No iteration would be allowed. -/
  | noIterations
  deriving DecidableEq, Repr

/-- The wording of a broken rule. -/
def SettingsFault.message : SettingsFault → String
  | .ratio name value =>
    name ++ " must be within [0, 1], got " ++ Decimal.Layout.message.write value
  | .inlineBounds least greatest =>
    s!"block_min_inline ({least}) exceeds block_max_inline ({greatest})"
  | .visitBounds least greatest =>
    "channel_visits_min (" ++ Decimal.Layout.message.write least ++
      ") exceeds channel_visits_max (" ++ Decimal.Layout.message.write greatest ++ ")"
  | .noCardInterval => "special_card_every_n must be positive"
  | .noIterations => "max_iterations must be positive"

namespace Settings

/-- The settings that have to lie between 0 and 1, by name. -/
def ratios (settings : Settings) : List (String × Float) :=
  [("inline_discovery_ratio", settings.inlineDiscoveryRatio),
    ("ads_to_discover_ratio", settings.adsToDiscoverRatio),
    ("source_subscribed_min", settings.sourceSubscribedMin),
    ("channel_subscribed_min", settings.channelSubscribedMin),
    ("source_visits_min", settings.sourceVisitsMin)]

/-- Whether a number lies between 0 and 1. -/
def isRatio (x : Float) : Bool :=
  decide (0.0 ≤ x) && decide (x ≤ 1.0)

/-- Checks the settings rule by rule. -/
def check (settings : Settings) : Except SettingsFault Unit :=
  match settings.ratios.find? fun ratio => !isRatio ratio.2 with
  | some (name, value) => .error (.ratio name value)
  | none =>
    if settings.blockMaxInline < settings.blockMinInline then
      .error (.inlineBounds settings.blockMinInline settings.blockMaxInline)
    else if settings.channelVisitsMax < settings.channelVisitsMin then
      .error (.visitBounds settings.channelVisitsMin settings.channelVisitsMax)
    else if settings.specialCardEveryN = 0 then .error .noCardInterval
    else if settings.maxIterations = 0 then .error .noIterations
    else .ok ()

/-- The settings pass the check exactly if they break none of its rules. -/
theorem check_eq_ok_iff {settings : Settings} :
    settings.check = .ok () ↔
      (∀ ratio ∈ settings.ratios, isRatio ratio.2 = true) ∧
      ¬ settings.blockMaxInline < settings.blockMinInline ∧
      ¬ settings.channelVisitsMax < settings.channelVisitsMin ∧
      settings.specialCardEveryN ≠ 0 ∧ settings.maxIterations ≠ 0 := by
  unfold check
  split
  · rename_i name value hfind
    -- a ratio is out of range
    have hbad := List.find?_some hfind
    have hmem := List.mem_of_find?_eq_some hfind
    constructor
    · intro h
      cases h
    · rintro ⟨hall, -⟩
      simp [hall _ hmem] at hbad
  · rename_i hnone
    -- all ratios are in range, and the other checks follow one after another
    have hall : ∀ ratio ∈ settings.ratios, isRatio ratio.2 = true := by
      simpa using hnone
    constructor
    · intro h
      refine ⟨hall, ?_⟩
      grind
    · rintro ⟨-, hblock, hvisits, hcards, hiterations⟩
      rw [if_neg hblock, if_neg hvisits, if_neg hcards, if_neg hiterations]

/-- The settings with a fixed start for the draws. -/
def withSeed (settings : Settings) (seed : UInt64) : Settings :=
  { settings with seed := some seed }

/-- The written fields, in the order of declaration. -/
def fields {m : Type → Type} [Scalars m] :
    Fields m [UInt64, UInt64, Float, UInt64, Float, UInt64, Float, Float, Float, Float, Float,
      String, UInt64, Option UInt64] :=
  let count : m UInt64 := Scalars.natural .count
  let float : m Float := Scalars.float
  let default : Settings := {}
  .cons "block_min_inline" count (some default.blockMinInline) <|
    .cons "block_max_inline" count (some default.blockMaxInline) <|
    .cons "inline_discovery_ratio" float (some default.inlineDiscoveryRatio) <|
    .cons "special_card_every_n" count (some default.specialCardEveryN) <|
    .cons "ads_to_discover_ratio" float (some default.adsToDiscoverRatio) <|
    .cons "discover_card_size" count (some default.discoverCardSize) <|
    .cons "source_subscribed_min" float (some default.sourceSubscribedMin) <|
    .cons "channel_subscribed_min" float (some default.channelSubscribedMin) <|
    .cons "channel_visits_min" float (some default.channelVisitsMin) <|
    .cons "channel_visits_max" float (some default.channelVisitsMax) <|
    .cons "source_visits_min" float (some default.sourceVisitsMin) <|
    .cons "top_news_channel" Scalars.text (some default.topNewsChannel) <|
    .cons "max_iterations" count (some default.maxIterations) <|
    .cons "seed" (Scalars.option (Scalars.natural .word)) (some none) .nil

/-- The settings with the given values of the fields. -/
def ofValues :
    Values [UInt64, UInt64, Float, UInt64, Float, UInt64, Float, Float, Float, Float, Float,
      String, UInt64, Option UInt64] → Settings
  | (blockMinInline, blockMaxInline, inlineDiscoveryRatio, specialCardEveryN, adsToDiscoverRatio,
      discoverCardSize, sourceSubscribedMin, channelSubscribedMin, channelVisitsMin,
      channelVisitsMax, sourceVisitsMin, topNewsChannel, maxIterations, seed, ()) =>
    { blockMinInline, blockMaxInline, inlineDiscoveryRatio, specialCardEveryN, adsToDiscoverRatio,
      discoverCardSize, sourceSubscribedMin, channelSubscribedMin, channelVisitsMin,
      channelVisitsMax, sourceVisitsMin, topNewsChannel, maxIterations, seed }

def reader {m : Type → Type} [Source m] : m Settings :=
  Source.record "struct FeedConfig" fields ofValues

def toJson (settings : Settings) : Json :=
  .object
    [("block_min_inline", Json.ofWord settings.blockMinInline),
      ("block_max_inline", Json.ofWord settings.blockMaxInline),
      ("inline_discovery_ratio", Json.ofFloat settings.inlineDiscoveryRatio),
      ("special_card_every_n", Json.ofWord settings.specialCardEveryN),
      ("ads_to_discover_ratio", Json.ofFloat settings.adsToDiscoverRatio),
      ("discover_card_size", Json.ofWord settings.discoverCardSize),
      ("source_subscribed_min", Json.ofFloat settings.sourceSubscribedMin),
      ("channel_subscribed_min", Json.ofFloat settings.channelSubscribedMin),
      ("channel_visits_min", Json.ofFloat settings.channelVisitsMin),
      ("channel_visits_max", Json.ofFloat settings.channelVisitsMax),
      ("source_visits_min", Json.ofFloat settings.sourceVisitsMin),
      ("top_news_channel", .string settings.topNewsChannel),
      ("max_iterations", Json.ofWord settings.maxIterations),
      ("seed", Json.ofOption Json.ofWord settings.seed)]

end Settings

/-- How signals are derived. -/
structure SignalSettings where
  /-- After how many hours the popularity of an article has halved. -/
  halfLifeHours : Float := 18.0
  /-- How many hours an article counts as fresh. -/
  freshWindowHours : Int64 := 5
  /-- The factor on the popularity of a fresh article. -/
  freshMultiplier : Float := 2.0
  /-- The popularity of an article without a score. -/
  defaultPopularity : Float := 50.0
  /-- The locale whose channels are offered. -/
  locale : String := "en_US"
  deriving DecidableEq, Repr

namespace SignalSettings

/-- The written fields, in the order of declaration. -/
def fields {m : Type → Type} [Scalars m] : Fields m [Float, Int64, Float, Float, String] :=
  let default : SignalSettings := {}
  .cons "pop_recency_half_life_hours" Scalars.float (some default.halfLifeHours) <|
    .cons "fresh_window_hours" Scalars.integer (some default.freshWindowHours) <|
    .cons "fresh_multiplier" Scalars.float (some default.freshMultiplier) <|
    .cons "default_popularity" Scalars.float (some default.defaultPopularity) <|
    .cons "locale" Scalars.text (some default.locale) .nil

/-- The settings with the given values of the fields. -/
def ofValues : Values [Float, Int64, Float, Float, String] → SignalSettings
  | (halfLifeHours, freshWindowHours, freshMultiplier, defaultPopularity, locale, ()) =>
    { halfLifeHours, freshWindowHours, freshMultiplier, defaultPopularity, locale }

def reader {m : Type → Type} [Source m] : m SignalSettings :=
  Source.record "struct SignalsConfig" fields ofValues

def toJson (settings : SignalSettings) : Json :=
  .object
    [("pop_recency_half_life_hours", Json.ofFloat settings.halfLifeHours),
      ("fresh_window_hours", Json.ofInt64 settings.freshWindowHours),
      ("fresh_multiplier", Json.ofFloat settings.freshMultiplier),
      ("default_popularity", Json.ofFloat settings.defaultPopularity),
      ("locale", .string settings.locale)]

end SignalSettings

end NewsFeed
