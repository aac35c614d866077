/-
Popularity and recency of an article in one number.

The popularity of an article is its score, or a number from the settings if it has none. It is
halved with every half-life of the article's age, in whole hours, and raised by a factor while the
article is fresh. Articles without a time of publication keep their plain popularity.

The decay is a parameter of `popRecencyWith`; `Float.pow` is an operation that the logic does not
define.
-/
import NewsFeed.Article
import NewsFeed.Settings

namespace NewsFeed

open Time (Instant)

namespace Article

/-- The popularity of an article. -/
def popularity (article : Article) (settings : SignalSettings) : Float :=
  if article.score == 0.0 then settings.defaultPopularity else article.score

/-- The age of something published at `published`, in whole hours; 0 for the future. -/
def ageHours (now published : Instant) : Nat :=
  (now.hoursSince published).toNat

/-- The factor for something published at `published` when everything after `freshSince` counts as
fresh. -/
def freshness (settings : SignalSettings) (freshSince published : Instant) : Float :=
  if freshSince.Before published then settings.freshMultiplier else 1.0

/-- Popularity and recency, for a decay that is a function of the number of half-lives. There is no
value if the window of freshness starts outside of the range of time. -/
def popRecencyWith (decay : Float → Float) (article : Article) (settings : SignalSettings)
    (now : Instant) : Option Float :=
  let popularity := article.popularity settings
  match article.publishTime with
  | none => some popularity
  | some published =>
    (now.hoursBefore? settings.freshWindowHours.toInt).map fun freshSince =>
      let age := Float.ofNat (ageHours now published)
      freshness settings freshSince published * popularity *
        decay (age / settings.halfLifeHours)

/-- Popularity and recency. -/
def popRecency (article : Article) (settings : SignalSettings) (now : Instant) : Option Float :=
  article.popRecencyWith (Float.pow 0.5) settings now

end Article

end NewsFeed
