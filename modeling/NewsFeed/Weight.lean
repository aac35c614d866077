/-
Weights: how likely an article or a channel is to be drawn.

The weight of an article is the product of a factor for the visits to its publisher, its popularity,
a factor for the subscription to its publisher and one for the subscription to a channel of it. The
weight of a channel is the product of a factor for the subscription and one for the visits to it.
Without a signal, or with one that blocks, the weight is 0 and the candidate is never drawn.
-/
import NewsFeed.Binary64
import NewsFeed.Settings
import NewsFeed.Snapshot

namespace NewsFeed

open Binary64

/-- The number as far from `least` to `greatest` as `value` is from 0 to 1, kept between the two.
A NaN is taken for 0. -/
def project (value least greatest : Float) : Float :=
  if value.isNaN then least
  else smaller (larger (least + value * (greatest - least)) least) greatest

namespace Signals

/-- The signal under a key, unless it blocks. -/
def unblocked? (signals : Signals) (key : String) : Option Signal :=
  match signals.get? key with
  | some signal => if signal.blocked then none else some signal
  | none => none

end Signals

/-- 1 for a subscription, `otherwise` without one. -/
def subscriptionFactor (subscribed : Bool) (otherwise : Float) : Float :=
  if subscribed then 1.0 else otherwise

namespace Signal

/-- The weight of an article with this signal. -/
def articleWeight (signal : Signal) (settings : Settings) : Float :=
  let visits := settings.sourceVisitsMin + signal.sourceVisits * (1.0 - settings.sourceVisitsMin)
  let source := subscriptionFactor signal.sourceSubscribed settings.sourceSubscribedMin
  let channel := subscriptionFactor signal.channelSubscribed settings.channelSubscribedMin
  visits * signal.popRecency * source * channel

/-- The weight of a channel with this signal. -/
def channelWeight (signal : Signal) (settings : Settings) : Float :=
  subscriptionFactor signal.channelSubscribed settings.channelSubscribedMin *
    project signal.channelVisits settings.channelVisitsMin settings.channelVisitsMax

end Signal

namespace Article

/-- The weight of an article. -/
def weight (article : Article) (signals : Signals) (settings : Settings) : Float :=
  match signals.unblocked? article.url with
  | some signal => signal.articleWeight settings
  | none => 0.0

/-- Whether nothing is known of a visit to the article's publisher. -/
def isUnvisited (article : Article) (signals : Signals) : Bool :=
  match signals.get? article.url with
  | some signal => signal.sourceVisits == 0.0
  | none => true

end Article

/-- The weight of a channel. -/
def Channel.weight (channel : Channel) (signals : Signals) (settings : Settings) : Float :=
  match signals.unblocked? channel.name with
  | some signal => signal.channelWeight settings
  | none => 0.0

end NewsFeed
