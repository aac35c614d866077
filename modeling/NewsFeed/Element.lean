/-
What a feed is made of: articles by themselves, clusters of articles, and special cards.
-/
import NewsFeed.Json.Tree
import NewsFeed.Snapshot

namespace NewsFeed

open Json (Source Fields)

/-- An article as it stands in a block. -/
inductive ArticleElement where
  /-- The article that leads a block. -/
  | hero (article : Article)
  /-- One of the articles below it; a discovery is an article of a publisher the user has not
  visited. -/
  | inline (article : Article) (isDiscover : Bool)
  deriving DecidableEq, Repr

namespace ArticleElement

/-- The article. -/
def article : ArticleElement → Article
  | .hero article => article
  | .inline article _ => article

def toJson : ArticleElement → Json
  | .hero article => .object [("type", .string "hero"), ("article", article.toJson)]
  | .inline article isDiscover =>
    .object [("type", .string "inline"), ("article", article.toJson),
      ("is_discover", .bool isDiscover)]

/-- The readers of the variants, by tag, for the choice called `owner`. -/
def variants {α : Type} (owner : String) (ofElement : ArticleElement → α) :
    List (String × Json.Tree α) :=
  [("hero",
      Source.record ("struct variant " ++ owner ++ "::Hero")
        (.cons "article" Article.reader none .nil)
        fun (article, ()) => ofElement (.hero article)),
    ("inline",
      Source.record ("struct variant " ++ owner ++ "::Inline")
        (.cons "article" Article.reader none <| .cons "is_discover" Source.bool none .nil)
        fun (article, isDiscover, ()) => ofElement (.inline article isDiscover))]

def reader {m : Type → Type} [Source m] : m ArticleElement :=
  Source.tagged "ArticleElement" (variants "ArticleElement" id)

end ArticleElement

/-- What the articles of a cluster have in common. -/
inductive ClusterType where
  | channel (name : String)
  deriving DecidableEq, Repr

namespace ClusterType

def reader {m : Type → Type} [Source m] : m ClusterType :=
  Source.labelled "ClusterType" [("channel", .channel)]

def toJson : ClusterType → Json
  | .channel name => .object [("type", .string "channel"), ("id", .string name)]

end ClusterType

/-- A part of a feed. -/
inductive Element where
  | hero (article : Article)
  | inline (article : Article) (isDiscover : Bool)
  | cluster (kind : ClusterType) (elements : List ArticleElement)
  | advert
  | discover (publishers : List Publisher)
  deriving DecidableEq, Repr

namespace Element

/-- An article of a block as a part of the feed. -/
def ofArticleElement : ArticleElement → Element
  | .hero article => .hero article
  | .inline article isDiscover => .inline article isDiscover

/-- The articles of the part, those inside a cluster included. -/
def articles : Element → List Article
  | .hero article => [article]
  | .inline article _ => [article]
  | .cluster _ elements => elements.map ArticleElement.article
  | .advert => []
  | .discover _ => []

/-- Whether the part is an advert or a discover card. -/
def isSpecialCard : Element → Bool
  | .advert => true
  | .discover _ => true
  | _ => false

def toJson : Element → Json
  | .hero article => (ArticleElement.hero article).toJson
  | .inline article isDiscover => (ArticleElement.inline article isDiscover).toJson
  | .cluster kind elements =>
    .object [("type", .string "cluster"), ("cluster_type", kind.toJson),
      ("elements", Json.ofList ArticleElement.toJson elements)]
  | .advert => .object [("type", .string "advert")]
  | .discover publishers =>
    .object [("type", .string "discover"), ("publishers", Json.ofList Publisher.toJson publishers)]

def reader {m : Type → Type} [Source m] : m Element :=
  Source.tagged "Element" <|
    ArticleElement.variants "Element" ofArticleElement ++
    [("cluster",
        Source.record "struct variant Element::Cluster"
          (.cons "cluster_type" ClusterType.reader none <|
            .cons "elements" (Source.list ArticleElement.reader) none .nil)
          fun (kind, elements, ()) => .cluster kind elements),
      ("advert", Json.Tree.emptyRecord .advert),
      ("discover",
        Source.record "struct variant Element::Discover"
          (.cons "publishers" (Source.list Publisher.reader) none .nil)
          fun (publishers, ()) => .discover publishers)]

end Element

end NewsFeed
