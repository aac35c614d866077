/-
Articles, the candidates of a feed.
-/
import NewsFeed.Json.Source

namespace NewsFeed

open Json (Source Fields)
open Time (Instant)

/-- A candidate article. -/
structure Article where
  id : String
  publisherId : String
  /-- The key of the article's signal. -/
  url : String
  /-- How relevant the article is by itself. -/
  score : Float := 0.0
  publishTime : Option Instant := none
  deriving DecidableEq, Repr

namespace Article

def reader {m : Type → Type} [Source m] : m Article :=
  Source.record "struct Article"
    (.cons "id" Source.text none <|
      .cons "publisher_id" Source.text none <|
      .cons "url" Source.text none <|
      .cons "score" Source.float (some 0.0) <|
      .cons "publish_time" (Source.option Source.stamp) (some none) .nil)
    fun (id, publisherId, url, score, publishTime, ()) =>
      { id, publisherId, url, score, publishTime }

def toJson (article : Article) : Json :=
  .object
    [("id", .string article.id),
      ("publisher_id", .string article.publisherId),
      ("url", .string article.url),
      ("score", Json.ofFloat article.score),
      ("publish_time", Json.ofOption (fun t => .string (Instant.write t)) article.publishTime)]

end Article

end NewsFeed
