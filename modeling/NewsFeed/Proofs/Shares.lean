/-
Shares of visits.

A share is a number of visits over a total, both exact integers but for the cap, and it is rounded
once.  The totals start at one, so there is no share without a denominator; what is counted for a
publisher or a channel is part of its total, so no share is more than one, whichever of the counts
have reached the cap.

The publishers can be met in any order (`signalsAlong?`), and the same signals come out.

* `signalsAlong?_perm` — the order of the publishers does not matter;
* `hasShares` — the shares in derived signals;
* `sum_visitsTo_lt` — the shares of all publishers add up to less than one;
* `signals_share_visits` — all of these, and when signals can be derived.
-/
import NewsFeed.Proofs.Counting
import NewsFeed.Proofs.Derived
import NewsFeed.Proofs.Dividing
import NewsFeed.Proofs.Endings
import NewsFeed.Proofs.Entries

namespace NewsFeed

open Binary64

/-! ### Publishers in any order -/

namespace Channel

/-- The names that publishers list in a locale. -/
def namesAlong (order : List Publisher) (locale : String) : List String :=
  (order.flatMap fun publisher => publisher.listings.filter fun listing =>
    listing.locale = locale).flatMap (·.channels)

/-- The channels that publishers list in a locale, each once, by ascending name. -/
def listedAlong (order : List Publisher) (locale : String) : List Channel :=
  (Dict.ofList ((namesAlong order locale).map fun name => (name, ()))).keys.map fun name => { name }

theorem isSome_get?_names {names : List String} {key : String} :
    ((Dict.ofList (names.map fun name => (name, ()))).get? key).isSome = true ↔ key ∈ names := by
  rw [Dict.get?_ofList, Dict.isSome_valueOf?_iff]
  simp

/-- Names in another order are listed in the same order. -/
theorem listedAlong_perm {order order' : List Publisher} (h : order.Perm order')
    (locale : String) : listedAlong order locale = listedAlong order' locale := by
  have hnames : (namesAlong order locale).Perm (namesAlong order' locale) :=
    (h.flatMap_right _).flatMap_right _
  have hsame : Dict.ofList ((namesAlong order locale).map fun name => (name, ())) =
      Dict.ofList ((namesAlong order' locale).map fun name => (name, ())) := by
    have hunit : ∀ found found' : Option Unit, found.isSome = found'.isSome → found = found' := by
      rintro (_ | _) (_ | _) h <;> first | rfl | cases h
    refine Dict.ext_get? fun key => hunit _ _ ?_
    rw [Bool.eq_iff_iff, isSome_get?_names, isSome_get?_names]
    exact hnames.mem_iff
  rw [listedAlong, listedAlong, hsame]

end Channel

namespace Derivation

/-- The signals of the articles and of the channels, when the publishers are met in a given order. -/
def signalsAlong? (derivation : Derivation) (order : List Publisher) (articles : List Article) :
    Option Signals :=
  let totals := VisitTotals.ofPublishers derivation.visits derivation.settings.locale order
  (articles.foldlM (derivation.addArticle totals) ∅).map fun signals =>
    (Channel.listedAlong order derivation.settings.locale).foldl (derivation.addChannel totals)
      signals

variable {derivation : Derivation} {articles : List Article} {signals : Signals}

/-- A derivation reads three counts off its totals. -/
theorem addArticle_congr {totals totals' : VisitTotals}
    (h : totals.publishers = totals'.publishers) :
    derivation.addArticle totals = derivation.addArticle totals' := by
  funext signals article
  simp only [addArticle, articleSignal?, h]

theorem addChannel_congr {totals totals' : VisitTotals} (h : totals.channels = totals'.channels)
    (hcount : ∀ name, totals.byChannel.count name = totals'.byChannel.count name) :
    derivation.addChannel totals = derivation.addChannel totals' := by
  funext signals channel
  have hvisits := UInt32.toNat_inj.mp (hcount channel.name)
  simp only [addChannel, channelSignal, h, hvisits]

/-- Derived signals do not depend on the order in which the publishers are met. -/
theorem signalsAlong?_perm {order : List Publisher}
    (h : order.Perm derivation.publishers.values) :
    derivation.signalsAlong? order articles = derivation.signals? articles := by
  have hcounts := VisitTotals.counts_ofPublishers derivation.visits derivation.settings.locale order
  have hcounts' := VisitTotals.counts_ofPublishers derivation.visits derivation.settings.locale
    derivation.publishers.values
  -- each total counts what a sum over the publishers says, and a sum has no order
  have hpublishers : (VisitTotals.ofPublishers derivation.visits derivation.settings.locale
      order).publishers = derivation.totals.publishers := by
    refine UInt32.toNat_inj.mp (hcounts.publishers.trans (.trans ?_ hcounts'.publishers.symm))
    rw [(h.map _).sum_eq]
  have hchannels : (VisitTotals.ofPublishers derivation.visits derivation.settings.locale
      order).channels = derivation.totals.channels := by
    refine UInt32.toNat_inj.mp (hcounts.channels.trans (.trans ?_ hcounts'.channels.symm))
    rw [(h.map _).sum_eq]
  have hbyChannel : ∀ name, (VisitTotals.ofPublishers derivation.visits derivation.settings.locale
      order).byChannel.count name = derivation.totals.byChannel.count name := by
    intro name
    refine (hcounts.byChannel name).trans (.trans ?_ (hcounts'.byChannel name).symm)
    rw [(h.map _).sum_eq]
  rw [signalsAlong?, signals?, addArticle_congr hpublishers, addChannel_congr hchannels hbyChannel,
    Channel.listedAlong_perm h]
  rfl

/-! ### Exact numbers of visits -/

/-- The number of visits to a publisher. -/
def visitsTo (derivation : Derivation) (publisher : Publisher) : ℕ :=
  (publisher.visits derivation.visits).toNat

/-- The number of visits to all publishers, and one. -/
def publisherTotal (derivation : Derivation) : ℕ :=
  capped (1 + (derivation.publishers.values.map derivation.visitsTo).sum)

/-- The number of visits to a channel: those to its publishers, for each time that they list it. -/
def visitsToChannel (derivation : Derivation) (name : String) : ℕ :=
  capped (derivation.publishers.values.map fun publisher =>
    derivation.visitsTo publisher *
      (publisher.channelsIn derivation.settings.locale).count name).sum

/-- The number of visits to all channels, and one. -/
def channelTotal (derivation : Derivation) : ℕ :=
  capped (1 + (derivation.publishers.values.map fun publisher =>
    derivation.visitsTo publisher *
      (publisher.channelsIn derivation.settings.locale).length).sum)

theorem toNat_totals_publishers (derivation : Derivation) :
    derivation.totals.publishers.toNat = derivation.publisherTotal :=
  (VisitTotals.counts_ofPublishers _ _ _).publishers

theorem toNat_totals_channels (derivation : Derivation) :
    derivation.totals.channels.toNat = derivation.channelTotal :=
  (VisitTotals.counts_ofPublishers _ _ _).channels

theorem count_totals_byChannel (derivation : Derivation) (name : String) :
    derivation.totals.byChannel.count name = derivation.visitsToChannel name :=
  (VisitTotals.counts_ofPublishers _ _ _).byChannel name

theorem publisherTotal_pos (derivation : Derivation) : 0 < derivation.publisherTotal :=
  one_le_capped (Nat.le_add_right 1 _)

theorem channelTotal_pos (derivation : Derivation) : 0 < derivation.channelTotal :=
  one_le_capped (Nat.le_add_right 1 _)

/-- The visits to a publisher are among those to all, also if there are more than can be counted. -/
theorem visitsTo_le {publisher : Publisher} (hmem : publisher ∈ derivation.publishers.values) :
    derivation.visitsTo publisher ≤ derivation.publisherTotal := by
  have hle : derivation.visitsTo publisher ≤
      (derivation.publishers.values.map derivation.visitsTo).sum :=
    List.single_le_sum (fun _ _ => Nat.zero_le _) _ (List.mem_map_of_mem hmem)
  calc derivation.visitsTo publisher
      = capped (derivation.visitsTo publisher) := (capped_toNat _).symm
    _ ≤ derivation.publisherTotal := capped_mono (hle.trans (Nat.le_add_left _ 1))

theorem visitsToChannel_le (derivation : Derivation) (name : String) :
    derivation.visitsToChannel name ≤ derivation.channelTotal := by
  refine capped_mono (le_trans ?_ (Nat.le_add_left _ 1))
  exact List.sum_le_sum fun publisher _ => Nat.mul_le_mul_left _ List.count_le_length

/-- If all visits could be counted, the shares of the publishers add up to less than one. -/
theorem sum_visitsTo_lt (derivation : Derivation)
    (h : 1 + (derivation.publishers.values.map derivation.visitsTo).sum ≤ mostVisits) :
    (derivation.publishers.values.map fun publisher =>
      (derivation.visitsTo publisher / derivation.publisherTotal : ℚ)).sum < 1 := by
  have htotal : derivation.publisherTotal =
      1 + (derivation.publishers.values.map derivation.visitsTo).sum := min_eq_left h
  have hpos : (0 : ℚ) < derivation.publisherTotal := by exact_mod_cast derivation.publisherTotal_pos
  have hsum : (derivation.publishers.values.map fun publisher =>
      (derivation.visitsTo publisher / derivation.publisherTotal : ℚ)).sum =
        ((derivation.publishers.values.map derivation.visitsTo).sum : ℕ) /
          derivation.publisherTotal := by
    generalize (derivation.publisherTotal : ℚ) = total
    induction derivation.publishers.values with
    | nil => simp
    | cons publisher publishers ih =>
      rw [List.map_cons, List.sum_cons, ih, List.map_cons, List.sum_cons, Nat.cast_add, add_div]
  rw [hsum, div_lt_one hpos, htotal]
  push_cast
  linarith

/-! ### Shares -/

/-- The shares in derived signals: the exact quotients of numbers of visits, rounded. -/
structure HasShares (derivation : Derivation) (articles : List Article) (signals : Signals) :
    Prop where
  /-- The last article of a known publisher at an address has the share of its publisher, unless
  the address is the name of a listed channel. -/
  article : ∀ address article publisher,
    derivation.lastKnown? address articles = some (article, publisher) →
    ⟨address⟩ ∉ Channel.listed derivation.publishers derivation.settings.locale →
    ∃ signal, signals.get? address = some signal ∧ number signal.sourceVisits =
      rounded ((derivation.visitsTo publisher / derivation.publisherTotal : ℝ) : ℝ)
  /-- A listed channel has its share. -/
  channel : ∀ channel ∈ Channel.listed derivation.publishers derivation.settings.locale,
    ∃ signal, signals.get? channel.name = some signal ∧ number signal.channelVisits =
      rounded ((derivation.visitsToChannel channel.name / derivation.channelTotal : ℝ) : ℝ)
  /-- Every share is a part of one. -/
  unit : ∀ key signal, signals.get? key = some signal →
    (0.0 ≤ signal.sourceVisits ∧ signal.sourceVisits ≤ 1.0) ∧
      0.0 ≤ signal.channelVisits ∧ signal.channelVisits ≤ 1.0

theorem zero_mem_unit : (0.0 : Float) ≤ 0.0 ∧ (0.0 : Float) ≤ 1.0 := by
  refine ⟨zero_nonneg, nonneg_iff.mpr ⟨by rfl, ?_⟩⟩
  rw [number_one]
  exact zero_le_one

/-- The share of a publisher. -/
theorem share_publisher (derivation : Derivation) (publisher : Publisher) :
    number (share (publisher.visits derivation.visits) derivation.totals.publishers) =
      rounded ((derivation.visitsTo publisher / derivation.publisherTotal : ℝ) : ℝ) := by
  have htotal := derivation.toNat_totals_publishers
  have hratio := (number_ratio (publisher.visits derivation.visits)
    (htotal ▸ derivation.publisherTotal_pos)).2
  rwa [htotal] at hratio

theorem share_publisher_mem_unit {publisher : Publisher}
    (hmem : publisher ∈ derivation.publishers.values) :
    0.0 ≤ share (publisher.visits derivation.visits) derivation.totals.publishers ∧
      share (publisher.visits derivation.visits) derivation.totals.publishers ≤ 1.0 := by
  have htotal := derivation.toNat_totals_publishers
  exact ratio_mem_unit (htotal ▸ derivation.publisherTotal_pos) (htotal ▸ visitsTo_le hmem)

/-- The share of a channel. -/
theorem share_channel (derivation : Derivation) (name : String) :
    number (share ((derivation.totals.byChannel.get? name).getD 0) derivation.totals.channels) =
      rounded ((derivation.visitsToChannel name / derivation.channelTotal : ℝ) : ℝ) := by
  have htotal := derivation.toNat_totals_channels
  have hcount : ((derivation.totals.byChannel.get? name).getD 0).toNat =
      derivation.visitsToChannel name := derivation.count_totals_byChannel name
  have hratio := (number_ratio ((derivation.totals.byChannel.get? name).getD 0)
    (htotal ▸ derivation.channelTotal_pos)).2
  rwa [htotal, hcount] at hratio

theorem share_channel_mem_unit (derivation : Derivation) (name : String) :
    0.0 ≤ share ((derivation.totals.byChannel.get? name).getD 0) derivation.totals.channels ∧
      share ((derivation.totals.byChannel.get? name).getD 0) derivation.totals.channels ≤ 1.0 := by
  have htotal := derivation.toNat_totals_channels
  have hcount : ((derivation.totals.byChannel.get? name).getD 0).toNat =
      derivation.visitsToChannel name := derivation.count_totals_byChannel name
  refine ratio_mem_unit (htotal ▸ derivation.channelTotal_pos) ?_
  rw [htotal, hcount]
  exact derivation.visitsToChannel_le name

/-- Where signals have been derived, each article of a known publisher had one. -/
theorem exists_articleSignal? (h : derivation.signals? articles = some signals) {article : Article}
    {publisher : Publisher} (hmem : article ∈ articles)
    (hpublisher : derivation.publishers.get? article.publisherId = some publisher) :
    ∃ signal, derivation.articleSignal? derivation.totals publisher article = some signal := by
  refine Option.ne_none_iff_exists'.mp fun hnone => ?_
  have hrefused : derivation.addArticle derivation.totals ∅ article = none := by
    rw [addArticle, hpublisher]
    exact Option.map_eq_none_iff.mpr hnone
  obtain ⟨hdated, hwindow⟩ := addArticle_eq_none_iff.mp hrefused
  rw [freshSince?, Time.Instant.hoursBefore?_eq_none_iff] at hwindow
  rw [signals?_eq_none_iff.mpr ⟨⟨article, hmem, hdated⟩, hwindow⟩] at h
  cases h

theorem hasShares (h : derivation.signals? articles = some signals) :
    derivation.HasShares articles signals where
  article := by
    intro address article publisher hlast hlisted
    obtain ⟨hmem, -, hpublisher⟩ := mem_of_lastKnown? hlast
    obtain ⟨signal, hsignal⟩ := exists_articleSignal? h hmem hpublisher
    refine ⟨signal, ?_, ?_⟩
    · rw [get?_signals h, if_neg hlisted, hlast]
      exact hsignal
    · -- decay only touches the popularity
      obtain ⟨popRecency, -, rfl⟩ := Option.map_eq_some_iff.mp hsignal
      exact derivation.share_publisher publisher
  channel := by
    intro channel hlisted
    exact ⟨_, (get?_signals h channel.name).trans (if_pos hlisted),
      derivation.share_channel channel.name⟩
  unit := by
    intro key signal hget
    rw [get?_signals h] at hget
    -- a signal is one of a channel or one of an article, and each has one share and one that is 0
    split_ifs at hget with hlisted
    · obtain rfl := Option.some.inj hget
      exact ⟨zero_mem_unit, derivation.share_channel_mem_unit key⟩
    · obtain ⟨⟨article, publisher⟩, hlast, hsignal⟩ := Option.bind_eq_some_iff.mp hget
      obtain ⟨popRecency, -, rfl⟩ := Option.map_eq_some_iff.mp hsignal
      obtain ⟨-, -, hpublisher⟩ := mem_of_lastKnown? hlast
      exact ⟨share_publisher_mem_unit (Dict.mem_values_of_get? hpublisher), zero_mem_unit⟩

/-- **Shares of visits.**  A history gives each host the number of its entries, up to the greatest
count and in any order.  Signals that are derived from visits hold the shares of the publishers and
of the channels, each an exact quotient that is rounded once and a part of one, in whatever order the
publishers are met; and they can be derived unless the window of freshness matters and starts outside
of the range of time. -/
theorem signals_share_visits (derivation : Derivation) (articles : List Article)
    (history : List String) :
    (∀ host, (visitsByHost history).get? host =
      if entriesWith history host = 0 then none
      else some (UInt32.ofNat (min (entriesWith history host) mostVisits))) ∧
    (∀ history', history.Perm history' → visitsByHost history = visitsByHost history') ∧
    (∀ publisher : Publisher, (publisher.visits (visitsByHost history)).toNat =
      ((hostOf publisher.siteUrl).map fun host =>
        min (entriesWith history host) mostVisits).getD 0) ∧
    1 ≤ derivation.publisherTotal ∧ 1 ≤ derivation.channelTotal ∧
    (1 + (derivation.publishers.values.map derivation.visitsTo).sum ≤ mostVisits →
      (derivation.publishers.values.map fun publisher =>
        (derivation.visitsTo publisher / derivation.publisherTotal : ℚ)).sum < 1) ∧
    (∀ order, order.Perm derivation.publishers.values →
      derivation.signalsAlong? order articles = derivation.signals? articles) ∧
    (derivation.signals? articles = none ↔
      (∃ article ∈ articles, article.IsDated derivation.publishers) ∧
        ¬ Time.InRange
          (derivation.now.secondBefore derivation.settings.freshWindowHours.toInt)) ∧
    ∀ signals, derivation.signals? articles = some signals →
      derivation.HasShares articles signals :=
  ⟨get?_visitsByHost history, fun _ => visitsByHost_perm, fun publisher =>
    visits_visitsByHost publisher history, derivation.publisherTotal_pos,
    derivation.channelTotal_pos, derivation.sum_visitsTo_lt, fun _ => signalsAlong?_perm,
    signals?_eq_none_iff, fun _ => hasShares⟩

/-- What is known of a user with more visits than can be counted, who has read two publishers of
which one lists a channel twice. -/
def crowded : Derivation where
  settings := {}
  now := ⟨19800, 30000, 250000000, by decide, by decide, by decide, by decide⟩
  publishers := Dict.ofList
    [("p", ⟨"p", "p", "p.example", [⟨"en_US", ["Tech", "Tech"]⟩], .notModified⟩),
      ("q", ⟨"q", "q", "q.example", [⟨"en_US", ["Tech", "World"]⟩], .notModified⟩)]
  visits := Dict.ofList [("p.example", 4294967290), ("q.example", 10)]
  subscriptions := {}

theorem signals_share_visits_crowded :
    ∃ signals, crowded.signals? [⟨"a", "q", "u", 1.0, none⟩] = some signals ∧
      crowded.signalsAlong? crowded.publishers.values.reverse [⟨"a", "q", "u", 1.0, none⟩] =
        some signals ∧
      (∃ signal, signals.get? "u" = some signal ∧
        number signal.sourceVisits = rounded ((10 / 4294967295 : ℝ) : ℝ)) ∧
      (∃ signal, signals.get? "Tech" = some signal ∧
        number signal.channelVisits = rounded ((4294967295 / 4294967295 : ℝ) : ℝ)) ∧
      (visitsByHost ["https://p.example/a", "q.example", "p.example"]).get? "p.example" =
        some 2 := by
  have hderived : (crowded.signals? [⟨"a", "q", "u", 1.0, none⟩]).isSome = true := by
    decide +kernel
  obtain ⟨signals, h⟩ := Option.isSome_iff_exists.mp hderived
  obtain ⟨hhosts, -, -, -, -, -, horder, -, hshares⟩ := signals_share_visits crowded
    [⟨"a", "q", "u", 1.0, none⟩] ["https://p.example/a", "q.example", "p.example"]
  obtain ⟨harticle, hchannel, -⟩ := hshares signals h
  have hlast : crowded.lastKnown? "u" [⟨"a", "q", "u", 1.0, none⟩] = some (⟨"a", "q", "u", 1.0, none⟩,
      ⟨"q", "q", "q.example", [⟨"en_US", ["Tech", "World"]⟩], .notModified⟩) := by
    decide +kernel
  have htotals : crowded.visitsTo
        ⟨"q", "q", "q.example", [⟨"en_US", ["Tech", "World"]⟩], .notModified⟩ = 10 ∧
      crowded.publisherTotal = 4294967295 ∧ crowded.visitsToChannel "Tech" = 4294967295 ∧
      crowded.channelTotal = 4294967295 := by
    decide +kernel
  obtain ⟨hq, hpublishers, htech, hchannels⟩ := htotals
  refine ⟨signals, h, (horder _ (List.reverse_perm _)).trans h, ?_, ?_, ?_⟩
  · have hshare := harticle "u" _ _ hlast (by decide +kernel)
    rwa [hq, hpublishers] at hshare
  · have hshare := hchannel ⟨"Tech"⟩ (by decide +kernel)
    rwa [htech, hchannels] at hshare
  · have hentries : entriesWith ["https://p.example/a", "q.example", "p.example"] "p.example" = 2 := by
      decide +kernel
    rw [hhosts, hentries]
    rfl

end Derivation

end NewsFeed
