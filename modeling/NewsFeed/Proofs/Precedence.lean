/-
What stands under a key of derived signals.

Addresses of articles and names of channels are keys of one map, and whatever is added later takes
the place of what was there.  Since the channels are added last, each in the order of its name, a
listed channel has the key for itself; otherwise the last article does whose publisher is known, and
articles of unknown publishers in between change nothing.

* `names_listedAlong_ascending`, `mem_names_listedAlong_iff` — the channels that are listed, in
  whatever order the publishers are met;
* `contains_ofList_iff` — what is subscribed to is what was subscribed to;
* `isChannelSignal`, `isArticleSignal` — what the signals tell;
* `signals_precedence` — which of them stands under a key.
-/
import NewsFeed.Proofs.Bytes
import NewsFeed.Proofs.Reaching

namespace NewsFeed

open Binary64

/-! ### Channels -/

namespace Channel

variable {order : List Publisher} {publishers : Dict Publisher} {locale name : String}

theorem map_name_listedAlong (order : List Publisher) (locale : String) :
    (listedAlong order locale).map Channel.name =
      (Dict.ofList ((namesAlong order locale).map fun name => (name, ()))).keys := by
  rw [listedAlong, List.map_map]
  exact List.map_id _

/-- The bytes of the names ascend. -/
theorem names_listedAlong_ascending (order : List Publisher) (locale : String) :
    ((listedAlong order locale).map Channel.name).Pairwise fun name name' =>
      utf8Bytes name < utf8Bytes name' := by
  rw [map_name_listedAlong, Dict.keys, List.pairwise_map]
  exact (Dict.ascending _).imp lt_iff_utf8Bytes_lt.mp

/-- The names are those that some publisher lists. -/
theorem mem_names_listedAlong_iff (h : order.Perm publishers.values) :
    name ∈ (listedAlong order locale).map Channel.name ↔
      ∃ publisher ∈ publishers.values, publisher.Lists locale name := by
  have hlisted : listedAlong order locale = listed publishers locale := listedAlong_perm h locale
  rw [← mem_listed_iff, hlisted, List.mem_map]
  constructor
  · rintro ⟨channel, hmem, rfl⟩
    exact hmem
  · exact fun hmem => ⟨⟨name⟩, hmem, rfl⟩

end Channel

/-! ### Subscriptions -/

/-- What is subscribed to is what was subscribed to. -/
theorem Subscriptions.contains_ofList_iff {calls : List (String × String)}
    {locale channel : String} :
    (ofList calls).contains locale channel = true ↔ (locale, channel) ∈ calls := by
  -- from the back, since the call made last is added last
  induction calls using List.reverseRecOn with
  | nil => simp [ofList, contains]
  | append_singleton calls call ih =>
    have hlast : ofList (calls ++ [call]) = (ofList calls).subscribe call.1 call.2 :=
      List.foldl_append
    rw [hlast, contains_subscribe, ih, List.mem_append, List.mem_singleton, or_comm,
      Prod.ext_iff]

namespace Derivation

variable {derivation : Derivation} {calls : List (String × String)} {articles : List Article}
  {signals : Signals} {key : String}

theorem isSubscribed_iff (hcalls : derivation.subscriptions = .ofList calls)
    (publisher : Publisher) : derivation.isSubscribed publisher = true ↔
      ∃ locale channel, publisher.Lists locale channel ∧ (locale, channel) ∈ calls := by
  simp only [isSubscribed, List.any_eq_true, hcalls, Subscriptions.contains_ofList_iff,
    Publisher.Lists]
  constructor
  · rintro ⟨listing, hlisting, channel, hchannel, hcall⟩
    exact ⟨listing.locale, channel, ⟨listing, hlisting, rfl, hchannel⟩, hcall⟩
  · rintro ⟨locale, channel, ⟨listing, hlisting, rfl, hchannel⟩, hcall⟩
    exact ⟨listing, hlisting, channel, hchannel, hcall⟩

/-! ### What signals tell -/

/-- The signal of a channel, after the given calls to subscribe. -/
structure IsChannelSignal (derivation : Derivation) (calls : List (String × String))
    (name : String) (signal : Signal) : Prop where
  unblocked : signal.blocked = false
  sourceVisits : signal.sourceVisits = 0.0
  popRecency : signal.popRecency = 0.0
  sourceSubscribed : signal.sourceSubscribed = false
  channelSubscribed : signal.channelSubscribed = true ↔
    (derivation.settings.locale, name) ∈ calls
  channelVisits : number signal.channelVisits =
    rounded ((derivation.visitsToChannel name / derivation.channelTotal : ℝ) : ℝ)

/-- The signal of an article of a publisher, after the given calls to subscribe. -/
structure IsArticleSignal (derivation : Derivation) (calls : List (String × String))
    (publisher : Publisher) (article : Article) (signal : Signal) : Prop where
  blocked : signal.blocked = true ↔ publisher.status = .disabled
  sourceSubscribed : signal.sourceSubscribed = true ↔ publisher.status = .enabled
  channelSubscribed : signal.channelSubscribed = true ↔
    ∃ locale channel, publisher.Lists locale channel ∧ (locale, channel) ∈ calls
  channelVisits : signal.channelVisits = 0.0
  sourceVisits : number signal.sourceVisits =
    rounded ((derivation.visitsTo publisher / derivation.publisherTotal : ℝ) : ℝ)
  popRecency : article.popRecency derivation.settings derivation.now = some signal.popRecency

theorem isChannelSignal (hcalls : derivation.subscriptions = .ofList calls) (name : String) :
    derivation.IsChannelSignal calls name (derivation.channelSignal derivation.totals ⟨name⟩) where
  unblocked := rfl
  sourceVisits := rfl
  popRecency := rfl
  sourceSubscribed := rfl
  channelSubscribed := by
    rw [channelSignal, hcalls]
    exact Subscriptions.contains_ofList_iff
  channelVisits := derivation.share_channel name

theorem isArticleSignal (hcalls : derivation.subscriptions = .ofList calls) {publisher : Publisher}
    {article : Article} {signal : Signal}
    (h : derivation.articleSignal? derivation.totals publisher article = some signal) :
    derivation.IsArticleSignal calls publisher article signal := by
  obtain ⟨popRecency, hpopRecency, rfl⟩ := Option.map_eq_some_iff.mp h
  exact
    { blocked := decide_eq_true_iff
      sourceSubscribed := decide_eq_true_iff
      channelSubscribed := isSubscribed_iff hcalls publisher
      channelVisits := rfl
      sourceVisits := derivation.share_publisher publisher
      popRecency := hpopRecency }

/-! ### Precedence -/

/-- Whether some publisher lists a channel in the locale of the settings. -/
def IsListed (derivation : Derivation) (name : String) : Prop :=
  ∃ publisher ∈ derivation.publishers.values, publisher.Lists derivation.settings.locale name

/-- What stands under a key of the signals that are derived for a list of articles, after the given
calls to subscribe: the first of three that there is. -/
inductive StandsUnder (derivation : Derivation) (calls : List (String × String))
    (articles : List Article) (key : String) : Option Signal → Prop where
  /-- A channel with that name. -/
  | channel {signal : Signal} (listed : derivation.IsListed key)
      (tells : derivation.IsChannelSignal calls key signal) :
      StandsUnder derivation calls articles key (some signal)
  /-- The last article at that address whose publisher is known. -/
  | article {before after : List Article} {article : Article} {publisher : Publisher}
      {signal : Signal} (unlisted : ¬ derivation.IsListed key)
      (place : articles = before ++ article :: after) (address : article.url = key)
      (known : derivation.publishers.get? article.publisherId = some publisher)
      (last : ∀ later ∈ after, later.url = key →
        derivation.publishers.get? later.publisherId = none)
      (tells : derivation.IsArticleSignal calls publisher article signal) :
      StandsUnder derivation calls articles key (some signal)
  /-- Nothing. -/
  | absent (unlisted : ¬ derivation.IsListed key)
      (unknown : ∀ article ∈ articles, article.url = key →
        derivation.publishers.get? article.publisherId = none) :
      StandsUnder derivation calls articles key none

theorem lastKnown?_eq_none_iff : derivation.lastKnown? key articles = none ↔
    ∀ article ∈ articles, article.url = key →
      derivation.publishers.get? article.publisherId = none := by
  rw [lastKnown?, List.findSome?_eq_none_iff]
  simp only [List.mem_reverse, known?_eq_none_iff]

theorem standsUnder (hcalls : derivation.subscriptions = .ofList calls)
    (h : derivation.signals? articles = some signals) (key : String) :
    derivation.StandsUnder calls articles key (signals.get? key) := by
  have hlisted : (⟨key⟩ : Channel) ∈
      Channel.listed derivation.publishers derivation.settings.locale ↔ derivation.IsListed key :=
    Channel.mem_listed_iff
  rw [get?_signals h]
  -- channels first, as their signals are put in last
  by_cases hkey : derivation.IsListed key
  · rw [if_pos (hlisted.mpr hkey)]
    exact .channel hkey (isChannelSignal hcalls key)
  rw [if_neg (mt hlisted.mp hkey)]
  cases hlast : derivation.lastKnown? key articles with
  | none => exact .absent hkey (lastKnown?_eq_none_iff.mp hlast)
  | some found =>
    obtain ⟨article, publisher⟩ := found
    -- of the articles with this address the last one with a known publisher
    obtain ⟨before, after, hplace, hurl, hpublisher, hafter⟩ := lastKnown?_eq_some_iff.mp hlast
    have hmem := (mem_of_lastKnown? hlast).1
    obtain ⟨signal, hsignal⟩ := exists_articleSignal? h hmem hpublisher
    rw [Option.bind_some, hsignal]
    exact .article hkey hplace hurl hpublisher hafter (isArticleSignal hcalls hsignal)

/-- **Precedence among derived signals.**  In whatever order the publishers are met, the channels
are those that some publisher lists in the locale, by strictly ascending bytes of their names; and
wherever signals can be derived, each key has the signal of the channel with that name, if it is
listed, else the one of the last article at that address with a known publisher, else none. -/
theorem signals_precedence (derivation : Derivation) (calls : List (String × String))
    (hcalls : derivation.subscriptions = .ofList calls) (order : List Publisher)
    (horder : order.Perm derivation.publishers.values) :
    (∀ locale, ((Channel.listedAlong order locale).map Channel.name).Pairwise (fun name name' =>
        utf8Bytes name < utf8Bytes name') ∧
      ∀ name, name ∈ (Channel.listedAlong order locale).map Channel.name ↔
        ∃ publisher ∈ derivation.publishers.values, publisher.Lists locale name) ∧
    ∀ articles signals, derivation.signalsAlong? order articles = some signals →
      ∀ key, derivation.StandsUnder calls articles key (signals.get? key) := by
  refine ⟨fun locale => ⟨Channel.names_listedAlong_ascending order locale, fun name =>
    Channel.mem_names_listedAlong_iff horder⟩, fun articles signals h key => ?_⟩
  rw [signalsAlong?_perm horder] at h
  exact standsUnder hcalls h key

/-- Subscriptions to a channel that is listed there, and to one that is listed elsewhere. -/
def abroad : List (String × String) :=
  [("de_DE", "Welt"), ("de_DE", "Tech")]

/-- What is known of a user with these subscriptions, who disabled one of two publishers. -/
def overlapping : Derivation :=
  { crowded with
    publishers := Dict.ofList
      [("p", { id := "p", name := "p", listings := [⟨"en_US", ["Tech"]⟩, ⟨"de_DE", ["Welt"]⟩] }),
        ("q", { id := "q", name := "q", listings := [⟨"en_US", ["World"]⟩], status := .disabled })]
    visits := ∅
    subscriptions := .ofList abroad }

/-- Three articles with one address, the last one of an unknown publisher; one at the name of a
channel; and one more of an unknown publisher. -/
def overlappingArticles : List Article :=
  [{ id := "a", publisherId := "p", url := "u" }, { id := "b", publisherId := "q", url := "u" },
    { id := "c", publisherId := "x", url := "u" }, { id := "d", publisherId := "p", url := "Tech" },
    { id := "e", publisherId := "x", url := "v" }]

theorem signals_precedence_overlapping :
    ∃ signals, overlapping.signalsAlong? overlapping.publishers.values.reverse
        overlappingArticles = some signals ∧
      (∀ key, overlapping.StandsUnder abroad overlappingArticles key (signals.get? key)) ∧
      (signals.get? "Tech").map (fun signal => (signal.popRecency, signal.channelSubscribed)) =
        some (0.0, false) ∧
      (signals.get? "u").map Signal.blocked = some true ∧ signals.get? "v" = none ∧
      (Channel.listedAlong overlapping.publishers.values.reverse "en_US").map Channel.name =
        ["Tech", "World"] ∧
      utf8Bytes "Tech" < utf8Bytes "World" := by
  have hderived : (overlapping.signalsAlong? overlapping.publishers.values.reverse
      overlappingArticles).map (fun signals =>
        ((signals.get? "Tech").map (fun signal => (signal.popRecency, signal.channelSubscribed)),
          (signals.get? "u").map Signal.blocked, signals.get? "v")) =
      some (some (0.0, false), some true, none) := by
    decide +kernel
  obtain ⟨signals, h, hentries⟩ := Option.map_eq_some_iff.mp hderived
  obtain ⟨htech, hshared, hunknown⟩ := by simpa only [Prod.mk.injEq] using hentries
  obtain ⟨hchannels, hstands⟩ := signals_precedence overlapping abroad rfl
    overlapping.publishers.values.reverse (List.reverse_perm _)
  have hnames : (Channel.listedAlong overlapping.publishers.values.reverse "en_US").map
      Channel.name = ["Tech", "World"] := by
    decide +kernel
  have hascending := (hchannels "en_US").1
  rw [hnames] at hascending
  exact ⟨signals, h, hstands overlappingArticles signals h, htech, hshared, hunknown, hnames,
    List.rel_of_pairwise_cons hascending (by simp)⟩

end Derivation

end NewsFeed
