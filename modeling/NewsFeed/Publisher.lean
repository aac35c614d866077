/-
Publishers, the channels they list, and what the user decided about them.
-/
import NewsFeed.Json.Source

namespace NewsFeed

open Json (Source Fields)

/-- What the user decided about a publisher. -/
inductive UserStatus where
  | notModified
  | enabled
  | disabled
  deriving DecidableEq, Repr

namespace UserStatus

/-- The written names. -/
def names : List (String × UserStatus) :=
  [("not_modified", .notModified), ("enabled", .enabled), ("disabled", .disabled)]

/-- The written name. -/
def name : UserStatus → String
  | .notModified => "not_modified"
  | .enabled => "enabled"
  | .disabled => "disabled"

def reader {m : Type → Type} [Source m] : m UserStatus :=
  Source.choice names

def toJson (status : UserStatus) : Json :=
  .string status.name

end UserStatus

/-- The channels a publisher lists in one locale. -/
structure Listing where
  locale : String
  channels : List String := []
  deriving DecidableEq, Repr

namespace Listing

def reader {m : Type → Type} [Source m] : m Listing :=
  Source.record "struct LocaleInfo"
    (.cons "locale" Source.text none <|
      .cons "channels" (Source.list Source.text) (some []) .nil)
    fun (locale, channels, ()) => { locale, channels }

def toJson (listing : Listing) : Json :=
  .object [("locale", .string listing.locale), ("channels", Json.ofList .string listing.channels)]

end Listing

/-- A publisher of articles. -/
structure Publisher where
  id : String
  name : String
  /-- Where the publisher serves from, compared with the browsing history by host. -/
  siteUrl : String := ""
  listings : List Listing := []
  status : UserStatus := .notModified
  deriving DecidableEq, Repr

namespace Publisher

/-- Whether the publisher lists a channel in any locale. -/
def inChannel (publisher : Publisher) (channel : String) : Bool :=
  publisher.listings.any fun listing => listing.channels.contains channel

def reader {m : Type → Type} [Source m] : m Publisher :=
  Source.record "struct Publisher"
    (.cons "publisher_id" Source.text none <|
      .cons "publisher_name" Source.text none <|
      .cons "site_url" Source.text (some "") <|
      .cons "locales" (Source.list Listing.reader) (some []) <|
      .cons "user_enabled_status" UserStatus.reader (some .notModified) .nil)
    fun (id, name, siteUrl, listings, status, ()) => { id, name, siteUrl, listings, status }

def toJson (publisher : Publisher) : Json :=
  .object
    [("publisher_id", .string publisher.id),
      ("publisher_name", .string publisher.name),
      ("site_url", .string publisher.siteUrl),
      ("locales", Json.ofList Listing.toJson publisher.listings),
      ("user_enabled_status", publisher.status.toJson)]

end Publisher

end NewsFeed
