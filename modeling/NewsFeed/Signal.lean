/-
Signals: what is known of the user's interest in one article or one channel.

Signals of articles are kept under the article's address and signals of channels under the channel's
name, in one map.
-/
import NewsFeed.Json.Source

namespace NewsFeed

open Json (Source Fields)

/-- The user's interest in one article or one channel. -/
structure Signal where
  blocked : Bool := false
  channelSubscribed : Bool := false
  /-- The channel's share of the visits to all channels; 0 for an article. -/
  channelVisits : Float := 0.0
  sourceSubscribed : Bool := false
  /-- The publisher's share of the visits to all publishers; 0 for a channel. -/
  sourceVisits : Float := 0.0
  /-- How popular and recent an article is; 0 for a channel. -/
  popRecency : Float := 0.0
  deriving DecidableEq, Repr

/-- Signals by address or channel name. -/
abbrev Signals := Dict Signal

namespace Signal

def reader {m : Type → Type} [Source m] : m Signal :=
  Source.record "struct Signal"
    (.cons "blocked" Source.bool (some false) <|
      .cons "channel_subscribed" Source.bool (some false) <|
      .cons "channel_visits" Source.float (some 0.0) <|
      .cons "source_subscribed" Source.bool (some false) <|
      .cons "source_visits" Source.float (some 0.0) <|
      .cons "pop_recency" Source.float (some 0.0) .nil)
    fun (blocked, channelSubscribed, channelVisits, sourceSubscribed, sourceVisits, popRecency,
        ()) =>
      { blocked, channelSubscribed, channelVisits, sourceSubscribed, sourceVisits, popRecency }

def toJson (signal : Signal) : Json :=
  .object
    [("blocked", .bool signal.blocked),
      ("channel_subscribed", .bool signal.channelSubscribed),
      ("channel_visits", Json.ofFloat signal.channelVisits),
      ("source_subscribed", .bool signal.sourceSubscribed),
      ("source_visits", Json.ofFloat signal.sourceVisits),
      ("pop_recency", Json.ofFloat signal.popRecency)]

end Signal

end NewsFeed
