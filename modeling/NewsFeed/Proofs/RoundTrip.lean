/-
Reading undoes writing.

What has been written is read back, with the keys as they were written or in ascending order, as long
as its floats are finite; and whatever has been read has finite floats.  So a value that was read
survives being written and read again.  Each type is settled by what its reader takes
(`takes_toJson`) and by what its reader guarantees (`gives_reader`); a written form lists the fields
of the type even where they have their default values.

* `RoundTrip` — what reading and writing of one type have to do with each other;
* `reading_undoes_writing` — all types of snapshots, feeds and settings.
-/
import NewsFeed.Element
import NewsFeed.Proofs.FiniteText
import NewsFeed.Proofs.Forms
import NewsFeed.Settings

namespace NewsFeed

open Json (Source Tree Careful readTree readText)

namespace Json

/-- The keys of an object, in the order in which they stand. -/
def keys : Json → List String
  | .object entries => entries.map Prod.fst
  | _ => []

/-- Reading undoes writing, for values that are finite and for values that were read themselves, and
what is written has the keys `names`. -/
structure RoundTrip {α : Type} (read : ∀ {m : Type → Type} [Source m], m α) (write : α → Json)
    (IsFinite : α → Prop) (names : α → List String) : Prop where
  /-- A finite value is read back, also once its keys have been put in ascending order. -/
  read_write : ∀ value, IsFinite value →
    readTree read (write value) = .ok value ∧ readTree read (write value).normalized = .ok value
  /-- So is a value that was read from a tree. -/
  read_write_readTree : ∀ json value, json.IsFinite → readTree read json = .ok value →
    readTree read (write value) = .ok value ∧ readTree read (write value).normalized = .ok value
  /-- So is a value that was read from a text. -/
  read_write_readText : ∀ text value, readText read text = .ok value →
    readTree read (write value) = .ok value ∧ readTree read (write value).normalized = .ok value
  /-- What is written has these keys, in ascending order or as they stand. -/
  keys_write : ∀ value,
    (write value).keys = names value ∧ (write value).normalized.keys.Perm (names value)

theorem readTree_of_direct {α : Type} {read : Tree α} {json : Json} {value : α}
    (h : read .direct json = .ok value) : readTree read json = .ok value := by
  rw [readTree, h]

theorem direct_of_readTree {α : Type} {read : Tree α} {json : Json} {value : α}
    (h : readTree read json = .ok value) : read .direct json = .ok value := by
  rw [readTree] at h
  split at h
  · cases h
    assumption
  · cases h

theorem keys_normalized {entries : List (String × Json)} (h : (entries.map Prod.fst).Nodup) :
    (object entries).normalized.keys.Perm (entries.map Prod.fst) := by
  obtain ⟨entries', hperm, heq⟩ := exists_normalized_object entries h
  have hkeys := hperm.map Prod.fst
  rw [List.map_map] at hkeys
  rw [heq]
  exact hkeys

theorem RoundTrip.of {α : Type} {read : ∀ {m : Type → Type} [Source m], m α} {write : α → Json}
    {IsFinite : α → Prop} {names : α → List String}
    (htakes : ∀ value, IsFinite value → Tree.Takes read (write value) value)
    (hgives : ∀ {m : Type → Type} [Source m] [Careful m], Careful.Gives (read : m α) IsFinite)
    (hkeys : ∀ value, ∃ entries, write value = .object entries ∧
      entries.map Prod.fst = names value ∧ (names value).Nodup) :
    RoundTrip read write IsFinite names := by
  have hwritten : ∀ value, IsFinite value → readTree read (write value) = .ok value ∧
      readTree read (write value).normalized = .ok value := fun value hvalue =>
    (htakes value hvalue .direct).imp readTree_of_direct readTree_of_direct
  refine ⟨hwritten, fun json value hjson hread => hwritten value ?_,
    fun text value hread => hwritten value ?_, fun value => ?_⟩
  · exact hgives (m := Tree) .direct json value hjson (direct_of_readTree hread)
  · exact Reading.Gives.of_readText (hgives (m := Reading)) hread
  · obtain ⟨entries, hentries, hnames, hnodup⟩ := hkeys value
    rw [hentries, ← hnames]
    exact ⟨rfl, keys_normalized (hnames ▸ hnodup)⟩

end Json

open Json.Tree

/-! ### Articles -/

namespace Article

/-- The written fields. -/
def names : List String :=
  ["id", "publisher_id", "url", "score", "publish_time"]

/-- The score is neither infinite nor NaN. -/
def IsFinite (article : Article) : Prop :=
  article.score.isFinite = true

instance : DecidablePred IsFinite :=
  fun article => inferInstanceAs (Decidable (article.score.isFinite = true))

theorem takes_toJson (article : Article) (h : article.IsFinite) :
    Tree.Takes reader article.toJson article := by
  refine takes_record (article.id, article.publisherId, article.url, article.score,
    article.publishTime, ()) (by decide) ?_ rfl
  refine ⟨_, _, rfl, takes_text _, _, _, rfl, takes_text _, _, _, rfl, takes_text _,
    _, _, rfl, takes_float h, _, _, rfl, ?_, rfl⟩
  exact takes_option (by rintro _ _ ⟨⟩) fun t _ => takes_stamp t

theorem gives_reader {m : Type → Type} [Source m] [Careful m] :
    Careful.Gives (reader : m Article) IsFinite := by
  refine Careful.record (Careful.give_any <| Careful.give_any <| Careful.give_any <|
    Careful.give_float (by decide +kernel) <| Careful.give_any Careful.give_nil) ?_
  rintro ⟨_, _, _, score, _⟩ ⟨-, -, -, hscore, -⟩
  exact hscore

theorem roundTrip : Json.RoundTrip reader toJson IsFinite fun _ => names :=
  .of takes_toJson gives_reader fun _ => ⟨_, rfl, rfl, by decide⟩

end Article

/-! ### Publishers -/

namespace UserStatus

theorem takes_toJson (status : UserStatus) : Tree.Takes reader status.toJson status :=
  takes_choice (by cases status <;> rfl)

end UserStatus

namespace Listing

/-- The written fields. -/
def names : List String :=
  ["locale", "channels"]

theorem takes_toJson (listing : Listing) : Tree.Takes reader listing.toJson listing := by
  refine takes_record (listing.locale, listing.channels, ()) (by decide) ?_ rfl
  exact ⟨_, _, rfl, takes_text _, _, _, rfl, takes_list fun channel _ => takes_text channel, rfl⟩

theorem roundTrip : Json.RoundTrip reader toJson (fun _ => True) fun _ => names :=
  .of (fun listing _ => listing.takes_toJson) (Careful.of_forall fun _ => trivial)
    fun _ => ⟨_, rfl, rfl, by decide⟩

end Listing

namespace Publisher

/-- The written fields. -/
def names : List String :=
  ["publisher_id", "publisher_name", "site_url", "locales", "user_enabled_status"]

theorem takes_toJson (publisher : Publisher) : Tree.Takes reader publisher.toJson publisher := by
  refine takes_record (publisher.id, publisher.name, publisher.siteUrl, publisher.listings,
    publisher.status, ()) (by decide) ?_ rfl
  refine ⟨_, _, rfl, takes_text _, _, _, rfl, takes_text _, _, _, rfl, takes_text _,
    _, _, rfl, ?_, _, _, rfl, publisher.status.takes_toJson, rfl⟩
  exact takes_list fun listing _ => listing.takes_toJson

theorem roundTrip : Json.RoundTrip reader toJson (fun _ => True) fun _ => names :=
  .of (fun publisher _ => publisher.takes_toJson) (Careful.of_forall fun _ => trivial)
    fun _ => ⟨_, rfl, rfl, by decide⟩

end Publisher

/-! ### Signals -/

namespace Signal

/-- The written fields. -/
def names : List String :=
  ["blocked", "channel_subscribed", "channel_visits", "source_subscribed", "source_visits",
    "pop_recency"]

/-- The shares and the popularity are neither infinite nor NaN. -/
def IsFinite (signal : Signal) : Prop :=
  ∀ x ∈ [signal.channelVisits, signal.sourceVisits, signal.popRecency], x.isFinite = true

theorem takes_toJson (signal : Signal) (h : signal.IsFinite) :
    Tree.Takes reader signal.toJson signal := by
  simp only [IsFinite, List.forall_mem_cons] at h
  obtain ⟨hchannel, hsource, hpop, -⟩ := h
  refine takes_record (signal.blocked, signal.channelSubscribed, signal.channelVisits,
    signal.sourceSubscribed, signal.sourceVisits, signal.popRecency, ()) (by decide) ?_ rfl
  exact ⟨_, _, rfl, takes_bool _, _, _, rfl, takes_bool _, _, _, rfl, takes_float hchannel,
    _, _, rfl, takes_bool _, _, _, rfl, takes_float hsource, _, _, rfl, takes_float hpop, rfl⟩

theorem gives_reader {m : Type → Type} [Source m] [Careful m] :
    Careful.Gives (reader : m Signal) IsFinite := by
  refine Careful.record (Careful.give_any <| Careful.give_any <|
    Careful.give_float (by decide +kernel) <| Careful.give_any <|
    Careful.give_float (by decide +kernel) <| Careful.give_float (by decide +kernel)
    Careful.give_nil) ?_
  rintro ⟨_, _, _, _, _, _, _⟩ ⟨-, -, hchannel, -, hsource, hpop, -⟩
  simp only [IsFinite, List.forall_mem_cons]
  exact ⟨hchannel, hsource, hpop, by rintro _ ⟨⟩⟩

theorem roundTrip : Json.RoundTrip reader toJson IsFinite fun _ => names :=
  .of takes_toJson gives_reader fun _ => ⟨_, rfl, rfl, by decide⟩

end Signal

/-! ### Snapshots -/

namespace Channel

/-- The written fields. -/
def names : List String :=
  ["channel_name"]

theorem takes_toJson (channel : Channel) : Tree.Takes reader channel.toJson channel :=
  takes_record (channel.name, ()) (by decide) ⟨_, _, rfl, takes_text _, rfl⟩ rfl

theorem roundTrip : Json.RoundTrip reader toJson (fun _ => True) fun _ => names :=
  .of (fun channel _ => channel.takes_toJson) (Careful.of_forall fun _ => trivial)
    fun _ => ⟨_, rfl, rfl, by decide⟩

end Channel

namespace Snapshot

/-- The written fields. -/
def names : List String :=
  ["publishers", "suggested", "articles", "signals", "channels"]

/-- The articles and the signals are finite. -/
def IsFinite (snapshot : Snapshot) : Prop :=
  (∀ article ∈ snapshot.articles, article.IsFinite) ∧
    ∀ signal ∈ snapshot.signals.values, signal.IsFinite

theorem takes_toJson (snapshot : Snapshot) (h : snapshot.IsFinite) :
    Tree.Takes reader snapshot.toJson snapshot := by
  obtain ⟨harticles, hsignals⟩ := h
  refine takes_record (snapshot.publishers, snapshot.suggested, snapshot.articles,
    snapshot.signals, snapshot.channels, ()) (by decide) ?_ rfl
  refine ⟨_, _, rfl, takes_dict fun entry _ => entry.2.takes_toJson,
    _, _, rfl, takes_list fun publisher _ => publisher.takes_toJson,
    _, _, rfl, takes_list fun article hmem => article.takes_toJson (harticles article hmem),
    _, _, rfl, takes_dict fun entry hmem => entry.2.takes_toJson ?_,
    _, _, rfl, takes_list fun channel _ => channel.takes_toJson, rfl⟩
  exact hsignals entry.2 (List.mem_map_of_mem hmem)

theorem gives_reader {m : Type → Type} [Source m] [Careful m] :
    Careful.Gives (reader : m Snapshot) IsFinite := by
  refine Careful.record (Careful.give_any <| Careful.give_any <|
    Careful.give_cons (Careful.list Article.gives_reader) (by rintro _ ⟨⟩ _ ⟨⟩) <|
    Careful.give_cons (Careful.dict Signal.gives_reader) (by rintro _ ⟨⟩ _ ⟨⟩) <|
    Careful.give_any Careful.give_nil) ?_
  rintro ⟨_, _, articles, signals, _⟩ ⟨-, -, harticles, hsignals, -⟩
  exact ⟨harticles, hsignals⟩

theorem roundTrip : Json.RoundTrip reader toJson IsFinite fun _ => names :=
  .of takes_toJson gives_reader fun _ => ⟨_, rfl, rfl, by decide⟩

end Snapshot

/-! ### Feeds -/

namespace ArticleElement

/-- The article is finite. -/
def IsFinite (element : ArticleElement) : Prop :=
  element.article.IsFinite

/-- The written fields, of which the first is the tag. -/
def names : ArticleElement → List String
  | .hero _ => ["type", "article"]
  | .inline _ _ => ["type", "article", "is_discover"]

/-- The two variants are read back wherever they are offered. -/
theorem takes_toJson_tagged {α : Type} {name owner : String} {ofElement : ArticleElement → α}
    (others : List (String × Json.Tree α)) (element : ArticleElement) (h : element.IsFinite) :
    Tree.Takes (Source.tagged name (variants owner ofElement ++ others)) element.toJson
      (ofElement element) := by
  cases element with
  | hero article =>
    refine takes_tagged rfl (article, ()) (by decide) ?_ rfl
    exact ⟨_, _, rfl, article.takes_toJson h, rfl⟩
  | inline article isDiscover =>
    refine takes_tagged rfl (article, isDiscover, ()) (by decide) ?_ rfl
    exact ⟨_, _, rfl, article.takes_toJson h, _, _, rfl, takes_bool _, rfl⟩

theorem takes_toJson (element : ArticleElement) (h : element.IsFinite) :
    Tree.Takes reader element.toJson element :=
  takes_toJson_tagged [] element h

/-- The two variants have finite articles wherever they are offered. -/
theorem gives_variants {α : Type} {owner : String} {ofElement : ArticleElement → α}
    {P : α → Prop} (h : ∀ element : ArticleElement, element.IsFinite → P (ofElement element)) :
    ∀ variant ∈ variants owner ofElement, variant.2.Gives P := by
  simp only [variants, List.forall_mem_cons]
  refine ⟨gives_record (Careful.give_needed Article.gives_reader Careful.give_nil) ?_,
    gives_record (Careful.give_needed Article.gives_reader <|
      Careful.give_any Careful.give_nil) ?_, by rintro _ ⟨⟩⟩
  · rintro ⟨article, _⟩ ⟨harticle, -⟩
    exact h (.hero article) harticle
  · rintro ⟨article, isDiscover, _⟩ ⟨harticle, -⟩
    exact h (.inline article isDiscover) harticle

theorem gives_reader {m : Type → Type} [Source m] [Careful m] :
    Careful.Gives (reader : m ArticleElement) IsFinite :=
  Careful.tagged (gives_variants fun _ h => h)

theorem roundTrip : Json.RoundTrip reader toJson IsFinite names :=
  .of takes_toJson gives_reader fun element => by
    cases element <;> exact ⟨_, rfl, rfl, by simp [names]⟩

end ArticleElement

namespace ClusterType

/-- The written fields, of which the first is the tag. -/
def names : List String :=
  ["type", "id"]

theorem takes_toJson (kind : ClusterType) : Tree.Takes reader kind.toJson kind := by
  cases kind with
  | channel name => exact takes_labelled rfl name

theorem roundTrip : Json.RoundTrip reader toJson (fun _ => True) fun _ => names :=
  .of (fun kind _ => kind.takes_toJson) (Careful.of_forall fun _ => trivial) fun kind => by
    cases kind
    exact ⟨_, rfl, rfl, by decide⟩

end ClusterType

namespace Element

/-- All articles are finite. -/
def IsFinite (element : Element) : Prop :=
  ∀ article ∈ element.articles, article.IsFinite

instance : DecidablePred IsFinite :=
  fun element => inferInstanceAs (Decidable (∀ article ∈ element.articles, article.IsFinite))

/-- The written fields, of which the first is the tag. -/
def names : Element → List String
  | .hero _ => ["type", "article"]
  | .inline _ _ => ["type", "article", "is_discover"]
  | .cluster _ _ => ["type", "cluster_type", "elements"]
  | .advert => ["type"]
  | .discover _ => ["type", "publishers"]

theorem takes_toJson (element : Element) (h : element.IsFinite) :
    Tree.Takes reader element.toJson element := by
  cases element with
  | hero article =>
    exact ArticleElement.takes_toJson_tagged _ (.hero article) (h article List.mem_cons_self)
  | inline article isDiscover =>
    exact ArticleElement.takes_toJson_tagged _ (.inline article isDiscover)
      (h article List.mem_cons_self)
  | cluster kind elements =>
    refine takes_tagged rfl (kind, elements, ()) (by decide) ?_ rfl
    refine ⟨_, _, rfl, kind.takes_toJson, _, _, rfl, takes_list fun element hmem => ?_, rfl⟩
    exact element.takes_toJson (h _ (List.mem_map_of_mem hmem))
  | advert => exact takes_tagged_empty rfl
  | discover publishers =>
    refine takes_tagged rfl (publishers, ()) (by decide) ?_ rfl
    exact ⟨_, _, rfl, takes_list fun publisher _ => publisher.takes_toJson, rfl⟩

theorem gives_reader {m : Type → Type} [Source m] [Careful m] :
    Careful.Gives (reader : m Element) IsFinite := by
  refine Careful.tagged (List.forall_mem_append.mpr ⟨ArticleElement.gives_variants ?_, ?_⟩)
  · intro element h
    cases element <;> exact List.forall_mem_singleton.mpr h
  · simp only [List.forall_mem_cons]
    refine ⟨gives_record (Careful.give_any <| Careful.give_needed
        (Careful.list ArticleElement.gives_reader) Careful.give_nil) ?_,
      gives_emptyRecord (by rintro _ ⟨⟩),
      gives_record (Careful.give_any Careful.give_nil) ?_, by rintro _ ⟨⟩⟩
    · rintro ⟨kind, elements, _⟩ ⟨-, helements, -⟩
      exact List.forall_mem_map.mpr helements
    · rintro ⟨publishers, _⟩ - _ ⟨⟩

theorem roundTrip : Json.RoundTrip reader toJson IsFinite names :=
  .of takes_toJson gives_reader fun element => by
    cases element <;> exact ⟨_, rfl, rfl, by simp [names]⟩

end Element

/-! ### Settings -/

namespace Settings

/-- The written fields. -/
def names : List String :=
  ["block_min_inline", "block_max_inline", "inline_discovery_ratio", "special_card_every_n",
    "ads_to_discover_ratio", "discover_card_size", "source_subscribed_min",
    "channel_subscribed_min", "channel_visits_min", "channel_visits_max", "source_visits_min",
    "top_news_channel", "max_iterations", "seed"]

/-- The ratios, factors and probabilities are neither infinite nor NaN. -/
def IsFinite (settings : Settings) : Prop :=
  ∀ x ∈ [settings.inlineDiscoveryRatio, settings.adsToDiscoverRatio, settings.sourceSubscribedMin,
    settings.channelSubscribedMin, settings.channelVisitsMin, settings.channelVisitsMax,
    settings.sourceVisitsMin], x.isFinite = true

theorem takes_toJson (settings : Settings) (h : settings.IsFinite) :
    Tree.Takes reader settings.toJson settings := by
  simp only [IsFinite, List.forall_mem_cons] at h
  obtain ⟨hdiscovery, hads, hsource, hchannel, hleast, hgreatest, hvisits, -⟩ := h
  refine takes_record (settings.blockMinInline, settings.blockMaxInline,
    settings.inlineDiscoveryRatio, settings.specialCardEveryN, settings.adsToDiscoverRatio,
    settings.discoverCardSize, settings.sourceSubscribedMin, settings.channelSubscribedMin,
    settings.channelVisitsMin, settings.channelVisitsMax, settings.sourceVisitsMin,
    settings.topNewsChannel, settings.maxIterations, settings.seed, ()) (by decide) ?_ rfl
  refine ⟨_, _, rfl, takes_natural _ _, _, _, rfl, takes_natural _ _,
    _, _, rfl, takes_float hdiscovery, _, _, rfl, takes_natural _ _, _, _, rfl, takes_float hads,
    _, _, rfl, takes_natural _ _, _, _, rfl, takes_float hsource, _, _, rfl, takes_float hchannel,
    _, _, rfl, takes_float hleast, _, _, rfl, takes_float hgreatest,
    _, _, rfl, takes_float hvisits, _, _, rfl, takes_text _, _, _, rfl, takes_natural _ _,
    _, _, rfl, ?_, rfl⟩
  exact takes_option (by rintro _ _ ⟨⟩) fun seed _ => takes_natural .word seed

theorem gives_reader {m : Type → Type} [Source m] [Careful m] :
    Careful.Gives (reader : m Settings) IsFinite := by
  refine Careful.record (Careful.give_any <| Careful.give_any <|
    Careful.give_float (by decide +kernel) <| Careful.give_any <|
    Careful.give_float (by decide +kernel) <| Careful.give_any <|
    Careful.give_float (by decide +kernel) <| Careful.give_float (by decide +kernel) <|
    Careful.give_float (by decide +kernel) <| Careful.give_float (by decide +kernel) <|
    Careful.give_float (by decide +kernel) <| Careful.give_any <| Careful.give_any <|
    Careful.give_any Careful.give_nil) ?_
  rintro ⟨_, _, _, _, _, _, _, _, _, _, _, _, _, _, _⟩
    ⟨-, -, hdiscovery, -, hads, -, hsource, hchannel, hleast, hgreatest, hvisits, -⟩
  simp only [IsFinite, List.forall_mem_cons]
  exact ⟨hdiscovery, hads, hsource, hchannel, hleast, hgreatest, hvisits, by rintro _ ⟨⟩⟩

theorem roundTrip : Json.RoundTrip reader toJson IsFinite fun _ => names :=
  .of takes_toJson gives_reader fun _ => ⟨_, rfl, rfl, by decide⟩

end Settings

namespace SignalSettings

/-- The written fields. -/
def names : List String :=
  ["pop_recency_half_life_hours", "fresh_window_hours", "fresh_multiplier", "default_popularity",
    "locale"]

/-- The popularities, the multiplier and the half-life are neither infinite nor NaN. -/
def IsFinite (settings : SignalSettings) : Prop :=
  ∀ x ∈ [settings.halfLifeHours, settings.freshMultiplier, settings.defaultPopularity],
    x.isFinite = true

theorem takes_toJson (settings : SignalSettings) (h : settings.IsFinite) :
    Tree.Takes reader settings.toJson settings := by
  simp only [IsFinite, List.forall_mem_cons] at h
  obtain ⟨hlife, hmultiplier, hpopularity, -⟩ := h
  refine takes_record (settings.halfLifeHours, settings.freshWindowHours,
    settings.freshMultiplier, settings.defaultPopularity, settings.locale, ()) (by decide) ?_ rfl
  exact ⟨_, _, rfl, takes_float hlife, _, _, rfl, takes_integer _,
    _, _, rfl, takes_float hmultiplier, _, _, rfl, takes_float hpopularity,
    _, _, rfl, takes_text _, rfl⟩

theorem gives_reader {m : Type → Type} [Source m] [Careful m] :
    Careful.Gives (reader : m SignalSettings) IsFinite := by
  refine Careful.record (Careful.give_float (by decide +kernel) <| Careful.give_any <|
    Careful.give_float (by decide +kernel) <| Careful.give_float (by decide +kernel) <|
    Careful.give_any Careful.give_nil) ?_
  rintro ⟨_, _, _, _, _, _⟩ ⟨hlife, -, hmultiplier, hpopularity, -⟩
  simp only [IsFinite, List.forall_mem_cons]
  exact ⟨hlife, hmultiplier, hpopularity, by rintro _ ⟨⟩⟩

theorem roundTrip : Json.RoundTrip reader toJson IsFinite fun _ => names :=
  .of takes_toJson gives_reader fun _ => ⟨_, rfl, rfl, by decide⟩

end SignalSettings

namespace Json

/-- **Reading undoes writing** for snapshots and their parts, for the parts of feeds, and for the
settings of feeds and of signals. -/
theorem reading_undoes_writing :
    RoundTrip Snapshot.reader Snapshot.toJson Snapshot.IsFinite (fun _ => Snapshot.names) ∧
    RoundTrip Element.reader Element.toJson Element.IsFinite Element.names ∧
    RoundTrip ArticleElement.reader ArticleElement.toJson ArticleElement.IsFinite
      ArticleElement.names ∧
    RoundTrip Publisher.reader Publisher.toJson (fun _ => True) (fun _ => Publisher.names) ∧
    RoundTrip Article.reader Article.toJson Article.IsFinite (fun _ => Article.names) ∧
    RoundTrip Signal.reader Signal.toJson Signal.IsFinite (fun _ => Signal.names) ∧
    RoundTrip Settings.reader Settings.toJson Settings.IsFinite (fun _ => Settings.names) ∧
    RoundTrip SignalSettings.reader SignalSettings.toJson SignalSettings.IsFinite
      (fun _ => SignalSettings.names) ∧
    RoundTrip Listing.reader Listing.toJson (fun _ => True) (fun _ => Listing.names) ∧
    RoundTrip Channel.reader Channel.toJson (fun _ => True) (fun _ => Channel.names) ∧
    RoundTrip ClusterType.reader ClusterType.toJson (fun _ => True) (fun _ => ClusterType.names) :=
  ⟨Snapshot.roundTrip, Element.roundTrip, ArticleElement.roundTrip, Publisher.roundTrip,
    Article.roundTrip, Signal.roundTrip, Settings.roundTrip, SignalSettings.roundTrip,
    Listing.roundTrip, Channel.roundTrip, ClusterType.roundTrip⟩

/-- A cluster with an article of the last leap second there is and one from before the year 0. -/
def outermost : Element :=
  .cluster (.channel "Top News")
    [.hero ⟨"late", "p", "u", 0.25,
        some ⟨95026236, 86399, 1000000001, by decide, by decide, by decide, by decide⟩⟩,
      .inline ⟨"early", "p", "v", -3.5,
        some ⟨-719530, 3723, 45000, by decide, by decide, by decide, by decide⟩⟩ true]

theorem reading_undoes_writing_outermost :
    readTree Element.reader outermost.toJson = .ok outermost ∧
    readTree Element.reader outermost.toJson.normalized = .ok outermost ∧
    outermost.toJson.keys = ["type", "cluster_type", "elements"] ∧
    readText Article.reader "[\"a\", \"p\", \"u\"]" = .ok ⟨"a", "p", "u", 0.0, none⟩ ∧
    readTree Article.reader (Article.toJson ⟨"a", "p", "u", 0.0, none⟩) =
      .ok ⟨"a", "p", "u", 0.0, none⟩ := by
  obtain ⟨-, helement, -, -, harticle, -⟩ := reading_undoes_writing
  obtain ⟨hread, hnormalized⟩ := helement.read_write outermost (by decide +kernel)
  have htext : readText Article.reader "[\"a\", \"p\", \"u\"]" =
      .ok ⟨"a", "p", "u", 0.0, none⟩ := by decide +kernel
  exact ⟨hread, hnormalized, rfl, htext, (harticle.read_write_readText _ _ htext).1⟩

end Json

end NewsFeed
