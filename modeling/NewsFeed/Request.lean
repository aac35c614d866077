/-
Requests: a snapshot, and what signals can be derived from if it carries none.

In its JSON form the parts of the snapshot stand beside the history and the subscriptions in one
object. Only these two are read in place; everything else is set aside until the object is at its
end, and the snapshot is read from that.
-/
import NewsFeed.Derivation
import NewsFeed.Json.Text

namespace NewsFeed

open Json (Reading Source)
open Time (Instant)

/-- A request for a feed. -/
structure Request where
  snapshot : Snapshot := {}
  /-- The addresses that the user has visited. -/
  history : List String := []
  /-- The channels that the user has subscribed to, in the locale of the settings. -/
  subscribedChannels : List String := []

namespace Request

/-- What has been read of a request. -/
structure Parts where
  history : Option (List String) := none
  subscribedChannels : Option (List String) := none
  /-- Everything that was set aside. -/
  others : List (String × Json) := []

/-- Reads the value of one key. -/
def addPart (parts : Parts) (key : String) : Reading Parts := do
  if key = "history" then
    if parts.history.isSome then Reading.refuse (.duplicateField key)
    Reading.colon
    return { parts with history := some (← Source.list Source.text) }
  else if key = "subscribed_channels" then
    if parts.subscribedChannels.isSome then Reading.refuse (.duplicateField key)
    Reading.colon
    return { parts with subscribedChannels := some (← Source.list Source.text) }
  else
    Reading.colon
    return { parts with others := parts.others ++ [(key, ← Reading.tree)] }

/-- The snapshot in what was set aside. -/
def snapshotOf (others : List (String × Json)) : Except Json.Fault Snapshot :=
  (Snapshot.reader : Json.Tree Snapshot) .setAside (.object others)

def reader : Reading Request := Reading.located do
  let ahead ← Reading.startOfValue
  if ahead = Json.byte '\x7b' then
    Reading.enclosed Reading.closeObject do
      let parts ← Reading.entries addPart {}
      let snapshot ← Reading.ofCheck (snapshotOf parts.others)
      return {
        snapshot
        history := parts.history.getD []
        subscribedChannels := parts.subscribedChannels.getD [] }
  else Reading.refuseAhead ahead (.record "struct FeedRequest")

/-- What the signals of a request are derived from. -/
def derivation (request : Request) (settings : SignalSettings) (now : Instant) : Derivation where
  settings
  now
  publishers := request.snapshot.publishers
  visits := visitsByHost request.history
  subscriptions :=
    Subscriptions.ofList (request.subscribedChannels.map fun channel => (settings.locale, channel))

/-- The snapshot of a request, with channels and signals derived if it carries none. There is none
if the derivation has no result. -/
def complete? (request : Request) (settings : SignalSettings) (now : Instant) :
    Option Snapshot := do
  let snapshot := request.snapshot
  let channels :=
    if snapshot.channels.isEmpty then Channel.listed snapshot.publishers settings.locale
    else snapshot.channels
  let signals ←
    if snapshot.signals.isEmpty then (request.derivation settings now).signals? snapshot.articles
    else some snapshot.signals
  return { snapshot with channels, signals }

end Request

end NewsFeed
