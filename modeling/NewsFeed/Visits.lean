/-
Visit counts.

Counts have 32 bits and stay at the greatest number once they have reached it (`addVisits`). A
browsing history gives a count for each host (`visitsByHost`), and `VisitTotals` sums the counts of
publishers and of the channels they list. Since the sums are the capped sums of natural numbers,
they do not depend on the order in which publishers are met.
-/
import NewsFeed.Address
import NewsFeed.Publisher

namespace NewsFeed

/-- The greatest count. -/
def mostVisits : Nat := 4294967295

/-- The sum of two counts, or the greatest count if the sum is beyond it. -/
def addVisits (a b : UInt32) : UInt32 :=
  UInt32.ofNat (min (a.toNat + b.toNat) mostVisits)

theorem toNat_addVisits (a b : UInt32) :
    (addVisits a b).toNat = min (a.toNat + b.toNat) mostVisits := by
  unfold addVisits mostVisits
  rw [UInt32.toNat_ofNat']
  omega

/-- Visits by host. -/
abbrev Visits := Dict UInt32

namespace Visits

/-- Counts visits to a key on top of those counted before. -/
def add (visits : Visits) (key : String) (count : UInt32) : Visits :=
  visits.insert key (addVisits ((visits.get? key).getD 0) count)

end Visits

/-- How often each host stands in a browsing history. Entries without a host are left out. -/
def visitsByHost (history : List String) : Visits :=
  (history.filterMap hostOf).foldl (fun visits host => visits.add host 1) ∅

/-- The visits to the host that a publisher serves from. -/
def Publisher.visits (publisher : Publisher) (visits : Visits) : UInt32 :=
  ((hostOf publisher.siteUrl).bind visits.get?).getD 0

/-- The channels that count for a publisher in a locale: those of its first listing there. -/
def Publisher.channelsIn (publisher : Publisher) (locale : String) : List String :=
  ((publisher.listings.find? fun listing => listing.locale = locale).map (·.channels)).getD []

/-- Sums of visits. The totals start at 1, so that shares of them are always defined. -/
structure VisitTotals where
  /-- Visits to all publishers, and one. -/
  publishers : UInt32 := 1
  /-- Visits to all channels, and one. A visit counts once for each channel listed. -/
  channels : UInt32 := 1
  /-- Visits to each channel. -/
  byChannel : Visits := ∅

namespace VisitTotals

/-- Adds a publisher's visits for one of its channels. -/
def addChannel (visits : UInt32) (totals : VisitTotals) (channel : String) : VisitTotals :=
  { totals with
    channels := addVisits totals.channels visits
    byChannel := totals.byChannel.add channel visits }

/-- Adds a publisher's visits. A publisher without visits leaves no trace. -/
def addPublisher (visits : Visits) (locale : String) (totals : VisitTotals)
    (publisher : Publisher) : VisitTotals :=
  let count := publisher.visits visits
  if count = 0 then totals
  else
    (publisher.channelsIn locale).foldl (addChannel count)
      { totals with publishers := addVisits totals.publishers count }

/-- The sums over a list of publishers. -/
def ofPublishers (visits : Visits) (locale : String) (publishers : List Publisher) : VisitTotals :=
  publishers.foldl (addPublisher visits locale) {}

end VisitTotals

end NewsFeed
