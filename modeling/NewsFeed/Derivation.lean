/-
Signals derived from what is known of a user: visits, subscriptions, and the user's decisions about
publishers.

An article of a known publisher gets a signal under its address, the later of two articles with one
address. Then every channel listed in the locale of the settings gets a signal under its name, in
place of what may stand there. The derivation has no result if the settings ask for a window of
freshness that starts outside of the range of time and some article of a known
publisher has a time of publication.

A channel is subscribed to in one locale; the channel of the same name in another locale is a
different one.
-/
import NewsFeed.Recency
import NewsFeed.Snapshot
import NewsFeed.Visits

namespace NewsFeed

open Time (Instant)

/-! ### Subscriptions -/

/-- The channels that are subscribed to, each with its locale. -/
structure Subscriptions where
  entries : List (String × String) := []
  deriving DecidableEq, Repr

namespace Subscriptions

/-- Adds a channel of a locale. -/
def subscribe (subscriptions : Subscriptions) (locale channel : String) : Subscriptions where
  entries := (locale, channel) :: subscriptions.entries

/-- Whether a channel of a locale is subscribed to. -/
def contains (subscriptions : Subscriptions) (locale channel : String) : Bool :=
  subscriptions.entries.contains (locale, channel)

/-- The subscriptions to the given channels, each with its locale. -/
def ofList (entries : List (String × String)) : Subscriptions :=
  entries.foldl (fun subscriptions entry => subscriptions.subscribe entry.1 entry.2) {}

theorem contains_subscribe (subscriptions : Subscriptions)
    (locale channel locale' channel' : String) :
    (subscriptions.subscribe locale channel).contains locale' channel' ↔
      locale' = locale ∧ channel' = channel ∨ subscriptions.contains locale' channel' := by
  simp [subscribe, contains]

end Subscriptions

/-! ### Signals -/

/-- The channels that publishers list in a locale, each once, by ascending name. -/
def Channel.listed (publishers : Dict Publisher) (locale : String) : List Channel :=
  let listings := publishers.values.flatMap fun publisher =>
    publisher.listings.filter fun listing => listing.locale = locale
  let names := listings.flatMap (·.channels)
  (Dict.ofList (names.map fun name => (name, ()))).keys.map fun name => { name }

/-- What signals are derived from, apart from the articles. -/
structure Derivation where
  settings : SignalSettings
  now : Instant
  publishers : Dict Publisher
  visits : Visits
  subscriptions : Subscriptions

namespace Derivation

/-- The sums of visits. -/
def totals (derivation : Derivation) : VisitTotals :=
  VisitTotals.ofPublishers derivation.visits derivation.settings.locale derivation.publishers.values

/-- A share of visits. -/
def share (visits total : UInt32) : Float :=
  visits.toFloat / total.toFloat

/-- Whether a channel of the publisher is subscribed to in the locale where it is listed. -/
def isSubscribed (derivation : Derivation) (publisher : Publisher) : Bool :=
  publisher.listings.any fun listing =>
    listing.channels.any fun channel => derivation.subscriptions.contains listing.locale channel

/-- The signal of an article of a publisher. -/
def articleSignal? (derivation : Derivation) (totals : VisitTotals) (publisher : Publisher)
    (article : Article) : Option Signal :=
  (article.popRecency derivation.settings derivation.now).map fun popRecency =>
    { blocked := publisher.status = .disabled
      channelSubscribed := derivation.isSubscribed publisher
      sourceSubscribed := publisher.status = .enabled
      sourceVisits := share (publisher.visits derivation.visits) totals.publishers
      popRecency }

/-- The signal of a channel. -/
def channelSignal (derivation : Derivation) (totals : VisitTotals) (channel : Channel) : Signal :=
  { channelSubscribed :=
      derivation.subscriptions.contains derivation.settings.locale channel.name
    channelVisits := share ((totals.byChannel.get? channel.name).getD 0) totals.channels }

/-- Adds the signal of an article. Articles of unknown publishers have none. -/
def addArticle (derivation : Derivation) (totals : VisitTotals) (signals : Signals)
    (article : Article) : Option Signals :=
  match derivation.publishers.get? article.publisherId with
  | none => some signals
  | some publisher =>
    (derivation.articleSignal? totals publisher article).map (signals.insert article.url)

/-- Adds the signal of a channel. -/
def addChannel (derivation : Derivation) (totals : VisitTotals) (signals : Signals)
    (channel : Channel) : Signals :=
  signals.insert channel.name (derivation.channelSignal totals channel)

/-- The signals of the articles and of the channels. -/
def signals? (derivation : Derivation) (articles : List Article) : Option Signals :=
  let totals := derivation.totals
  (articles.foldlM (derivation.addArticle totals) ∅).map fun signals =>
    -- channels come last, so that their signals stand where an article has the same key
    (Channel.listed derivation.publishers derivation.settings.locale).foldl
      (derivation.addChannel totals) signals

end Derivation

end NewsFeed
