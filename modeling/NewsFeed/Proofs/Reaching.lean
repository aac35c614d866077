/-
Which channels the visits to a publisher reach.

A publisher may have several listings in a locale.  The channels that get a signal are those of all
of them, but visits are counted for the first one only.  So the visits to a publisher reach each of
its channels if it has one listing in the locale, and a channel that stands in a later listing only
has a signal that knows of no visit, however often the publisher was visited.

* `mem_listed_iff` — the channels that get a signal;
* `channelVisits_pos_iff` — those whose signal knows of a visit;
* `visits_reach_first_listings` — both, and when they are the same.
-/
import NewsFeed.Proofs.Shares

namespace NewsFeed

open Binary64

/-! ### Listings -/

namespace Publisher

variable {publisher : Publisher} {locale channel : String}

/-- Whether a publisher lists a channel in a locale. -/
def Lists (publisher : Publisher) (locale channel : String) : Prop :=
  ∃ listing ∈ publisher.listings, listing.locale = locale ∧ channel ∈ listing.channels

/-- Whether a publisher lists a channel in its first listing in a locale. -/
def ListsFirst (publisher : Publisher) (locale channel : String) : Prop :=
  ∃ before listing after, publisher.listings = before ++ listing :: after ∧
    (∀ earlier ∈ before, earlier.locale ≠ locale) ∧ listing.locale = locale ∧
      channel ∈ listing.channels

/-- The listings of a publisher in a locale. -/
def listingsIn (publisher : Publisher) (locale : String) : List Listing :=
  publisher.listings.filter fun listing => listing.locale = locale

/-- The channels that count are those of the first listing. -/
theorem mem_channelsIn_iff :
    channel ∈ publisher.channelsIn locale ↔ publisher.ListsFirst locale channel := by
  rw [channelsIn]
  cases hfind : publisher.listings.find? fun listing => listing.locale = locale with
  | none =>
    -- no listing has the locale
    refine iff_of_false List.not_mem_nil ?_
    rintro ⟨before, listing, after, hlistings, -, hlocale, -⟩
    have hmem : listing ∈ publisher.listings := by rw [hlistings]; simp
    exact List.find?_eq_none.mp hfind listing hmem (decide_eq_true hlocale)
  | some listing =>
    obtain ⟨hlocale, before, after, hlistings, hbefore⟩ := List.find?_eq_some_iff_append.mp hfind
    constructor
    · intro hmem
      exact ⟨before, listing, after, hlistings, fun earlier h => by simpa using hbefore earlier h,
        of_decide_eq_true hlocale, hmem⟩
    · rintro ⟨before', listing', after', hlistings', hbefore', hlocale', hmem⟩
      -- the first listing of the locale is the one that is found
      have hfind' : (publisher.listings.find? fun listing => listing.locale = locale) =
          some listing' :=
        List.find?_eq_some_iff_append.mpr ⟨decide_eq_true hlocale', before', after', hlistings',
          fun earlier h => by simpa using hbefore' earlier h⟩
      obtain rfl := Option.some.inj (hfind.symm.trans hfind')
      exact hmem

/-- A publisher with one listing in a locale has no other channels there. -/
theorem Lists.first (h : publisher.Lists locale channel)
    (hone : (publisher.listingsIn locale).length ≤ 1) : publisher.ListsFirst locale channel := by
  obtain ⟨listing, hmem, hlocale, hchannel⟩ := h
  obtain ⟨before, after, hlistings⟩ := List.append_of_mem hmem
  refine ⟨before, listing, after, hlistings, fun earlier hearlier hsame => ?_, hlocale, hchannel⟩
  -- there would be two listings in the locale
  rw [listingsIn, hlistings, List.filter_append, List.filter_cons_of_pos (by simpa using hlocale),
    List.length_append, List.length_cons] at hone
  have hearlier' : earlier ∈ before.filter fun listing => listing.locale = locale :=
    List.mem_filter.mpr ⟨hearlier, decide_eq_true hsame⟩
  have hpos := List.length_pos_of_mem hearlier'
  omega

end Publisher

/-- The channels that get a signal are those that some publisher lists. -/
theorem Channel.mem_listed_iff {publishers : Dict Publisher} {locale name : String} :
    ⟨name⟩ ∈ listed publishers locale ↔
      ∃ publisher ∈ publishers.values, publisher.Lists locale name := by
  have hnames : ⟨name⟩ ∈ listed publishers locale ↔
      name ∈ namesAlong publishers.values locale := by
    rw [← isSome_get?_names, Dict.get?, Dict.isSome_valueOf?_iff]
    exact List.mem_map_of_injective fun _ _ h => Channel.mk.inj h
  rw [hnames, namesAlong, List.mem_flatMap]
  constructor
  · rintro ⟨listing, hlisting, hname⟩
    obtain ⟨publisher, hpublisher, hmem⟩ := List.mem_flatMap.mp hlisting
    obtain ⟨hmem, hlocale⟩ := List.mem_filter.mp hmem
    exact ⟨publisher, hpublisher, listing, hmem, of_decide_eq_true hlocale, hname⟩
  · rintro ⟨publisher, hpublisher, listing, hmem, hlocale, hname⟩
    exact ⟨listing, List.mem_flatMap.mpr ⟨publisher, hpublisher,
      List.mem_filter.mpr ⟨hmem, decide_eq_true hlocale⟩⟩, hname⟩

namespace Derivation

variable {derivation : Derivation} {articles : List Article} {signals : Signals} {name : String}

theorem visitsToChannel_pos_iff : 0 < derivation.visitsToChannel name ↔
    ∃ publisher ∈ derivation.publishers.values, 0 < derivation.visitsTo publisher ∧
      publisher.ListsFirst derivation.settings.locale name := by
  have hcapped (n : ℕ) : 0 < capped n ↔ 0 < n := by
    unfold capped mostVisits
    omega
  rw [visitsToChannel, hcapped, List.sum_pos_iff_exists_pos_nat]
  constructor
  · rintro ⟨visits, hvisits, hpos⟩
    obtain ⟨publisher, hmem, rfl⟩ := List.mem_map.mp hvisits
    obtain ⟨hvisited, hcount⟩ := CanonicallyOrderedAdd.mul_pos.mp hpos
    exact ⟨publisher, hmem, hvisited,
      Publisher.mem_channelsIn_iff.mp (List.count_pos_iff.mp hcount)⟩
  · rintro ⟨publisher, hmem, hvisited, hfirst⟩
    refine ⟨_, List.mem_map_of_mem hmem, Nat.mul_pos hvisited ?_⟩
    exact List.count_pos_iff.mpr (Publisher.mem_channelsIn_iff.mpr hfirst)

/-- The signal of a channel knows of a visit if some publisher that was visited lists the channel
first. -/
theorem channelVisits_pos_iff (h : derivation.signals? articles = some signals)
    (hlisted : ⟨name⟩ ∈ Channel.listed derivation.publishers derivation.settings.locale) :
    ∃ signal, signals.get? name = some signal ∧
      (0.0 < signal.channelVisits ↔
        ∃ publisher ∈ derivation.publishers.values, 0 < derivation.visitsTo publisher ∧
          publisher.ListsFirst derivation.settings.locale name) := by
  refine ⟨_, (get?_signals h name).trans (if_pos hlisted), ?_⟩
  have htotal : 0 < derivation.totals.channels.toNat :=
    derivation.toNat_totals_channels ▸ derivation.channelTotal_pos
  rw [← visitsToChannel_pos_iff, ← derivation.count_totals_byChannel]
  exact ratio_pos_iff htotal

/-- **Visits reach the channels that a publisher lists first.**  Signals can be derived unless the
window of freshness matters and starts outside of the range of time.  Every channel that a publisher
lists in the locale has a signal then, in whichever of the publisher's listings it stands; but the
signal knows of a visit only if some publisher was visited that has the channel in its first listing
in the locale.  Where that is the only one, its visits reach each of its channels. -/
theorem visits_reach_first_listings (derivation : Derivation) (articles : List Article) :
    let locale := derivation.settings.locale
    (derivation.signals? articles = none ↔
      (∃ article ∈ articles, article.IsDated derivation.publishers) ∧
        ¬ Time.InRange
          (derivation.now.secondBefore derivation.settings.freshWindowHours.toInt)) ∧
    ∀ signals, derivation.signals? articles = some signals →
      ∀ publisher ∈ derivation.publishers.values, ∀ name, publisher.Lists locale name →
        ∃ signal, signals.get? name = some signal ∧
          (0.0 < signal.channelVisits ↔
            ∃ visited ∈ derivation.publishers.values, 0 < derivation.visitsTo visited ∧
              visited.ListsFirst locale name) ∧
          (0 < derivation.visitsTo publisher → (publisher.listingsIn locale).length ≤ 1 →
            0.0 < signal.channelVisits) := by
  intro locale
  refine ⟨signals?_eq_none_iff, fun signals h publisher hmem name hlists => ?_⟩
  obtain ⟨signal, hget, hpos⟩ :=
    channelVisits_pos_iff h (Channel.mem_listed_iff.mpr ⟨publisher, hmem, hlists⟩)
  refine ⟨signal, hget, hpos, fun hvisited hone => hpos.mpr ?_⟩
  exact ⟨publisher, hmem, hvisited, hlists.first hone⟩

/-- A publisher with two listings in one locale. -/
def twiceListed : Publisher where
  id := "p"
  name := "p"
  siteUrl := "p.example"
  listings := [⟨"en_US", ["World"]⟩, ⟨"en_US", ["Tech"]⟩]

/-- What is known of a user who visited it twice. -/
def listedTwice : Derivation :=
  { crowded with
    publishers := Dict.ofList [("p", twiceListed)]
    visits := Dict.ofList [("p.example", 2)] }

/-- The visits reach the channel of the first listing and not that of the second. -/
theorem visits_reach_first_listings_twice :
    0 < listedTwice.visitsTo twiceListed ∧
    ∃ signals world tech, listedTwice.signals? [] = some signals ∧
      twiceListed.Lists "en_US" "World" ∧ signals.get? "World" = some world ∧
      0.0 < world.channelVisits ∧
      twiceListed.Lists "en_US" "Tech" ∧ signals.get? "Tech" = some tech ∧
      ¬ 0.0 < tech.channelVisits := by
  have hvalues : listedTwice.publishers.values = [twiceListed] := by decide +kernel
  have hvisited : 0 < listedTwice.visitsTo twiceListed := by decide +kernel
  have hmem : twiceListed ∈ listedTwice.publishers.values := by rw [hvalues]; simp
  have hworld : twiceListed.Lists "en_US" "World" := ⟨⟨"en_US", ["World"]⟩, by decide +kernel⟩
  have htech : twiceListed.Lists "en_US" "Tech" := ⟨⟨"en_US", ["Tech"]⟩, by decide +kernel⟩
  obtain ⟨hnone, hreach⟩ := visits_reach_first_listings listedTwice []
  obtain ⟨signals, h⟩ := Option.ne_none_iff_exists'.mp fun h =>
    (List.not_mem_nil (hnone.mp h).1.choose_spec.1 : False)
  obtain ⟨world, hgetWorld, hposWorld, -⟩ := hreach signals h twiceListed hmem "World" hworld
  obtain ⟨tech, hgetTech, hposTech, -⟩ := hreach signals h twiceListed hmem "Tech" htech
  refine ⟨hvisited, signals, world, tech, h, hworld, hgetWorld, hposWorld.mpr ?_, htech, hgetTech,
    fun hpos => ?_⟩
  · exact ⟨twiceListed, hmem, hvisited, Publisher.mem_channelsIn_iff.mp (by decide +kernel)⟩
  · obtain ⟨visited, hvisited', -, hfirst⟩ := hposTech.mp hpos
    rw [hvalues] at hvisited'
    obtain rfl := List.mem_singleton.mp hvisited'
    exact absurd (Publisher.mem_channelsIn_iff.mpr hfirst) (by decide +kernel)

end Derivation

end NewsFeed
