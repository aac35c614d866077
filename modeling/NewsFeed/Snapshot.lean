/-
Snapshots: everything that the making of one feed starts from.
-/
import NewsFeed.Article
import NewsFeed.Publisher
import NewsFeed.Signal

namespace NewsFeed

open Json (Source Fields)

/-- A channel that a cluster can be made of. -/
structure Channel where
  name : String
  deriving DecidableEq, Repr

namespace Channel

def reader {m : Type → Type} [Source m] : m Channel :=
  Source.record "struct Channel" (.cons "channel_name" Source.text none .nil)
    fun (name, ()) => { name }

def toJson (channel : Channel) : Json :=
  .object [("channel_name", .string channel.name)]

end Channel

/-- Everything that a feed is made from. The articles are the pool of candidates and the suggested
publishers a second pool; both are used up while the feed is made. -/
structure Snapshot where
  publishers : Dict Publisher := ∅
  suggested : List Publisher := []
  articles : List Article := []
  signals : Signals := ∅
  channels : List Channel := []

namespace Snapshot

/-- The parts of a snapshot, in the order of declaration. -/
def fields {m : Type → Type} [Source m] :
    Fields m [Dict Publisher, List Publisher, List Article, Signals, List Channel] :=
  .cons "publishers" (Source.dict Publisher.reader) (some ∅) <|
    .cons "suggested" (Source.list Publisher.reader) (some []) <|
    .cons "articles" (Source.list Article.reader) (some []) <|
    .cons "signals" (Source.dict Signal.reader) (some ∅) <|
    .cons "channels" (Source.list Channel.reader) (some []) .nil

def reader {m : Type → Type} [Source m] : m Snapshot :=
  Source.record "struct FeedSnapshot" fields
    fun (publishers, suggested, articles, signals, channels, ()) =>
      { publishers, suggested, articles, signals, channels }

def toJson (snapshot : Snapshot) : Json :=
  .object
    [("publishers", Json.ofDict Publisher.toJson snapshot.publishers),
      ("suggested", Json.ofList Publisher.toJson snapshot.suggested),
      ("articles", Json.ofList Article.toJson snapshot.articles),
      ("signals", Json.ofDict Signal.toJson snapshot.signals),
      ("channels", Json.ofList Channel.toJson snapshot.channels)]

end Snapshot

end NewsFeed
