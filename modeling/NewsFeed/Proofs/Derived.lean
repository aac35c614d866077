/-
Derived signals, and whom they keep out of a feed.

Under a key stands the signal of the channel with that name, if it is listed, and else the signal of
the last article with that address whose publisher is known.  So a signal that was derived from one
article is read for every article of the same address, whoever published it.

A disabled publisher is kept out by the signals of its own articles.  It follows that what is shown
is decided by the publisher of the last article at an address, and by the publisher of the article
itself only where articles with one address have one publisher.

* `get?_signals` — what stands under a key;
* `make_shows_last_known` — every article shown has the address of one whose publisher is known and
  not disabled, namely of the last one there is.
-/
import NewsFeed.Derivation
import NewsFeed.Proofs.Admission

namespace NewsFeed

namespace Derivation

variable {derivation : Derivation} {totals : VisitTotals} {articles : List Article}
  {signals : Signals} {key : String}

/-! ### What stands under a key -/

/-- An article at an address with its publisher, if that is known. -/
def known? (derivation : Derivation) (address : String) (article : Article) :
    Option (Article × Publisher) :=
  if article.url = address then
    (derivation.publishers.get? article.publisherId).map (Prod.mk article)
  else none

/-- The last article at an address whose publisher is known, with that publisher. -/
def lastKnown? (derivation : Derivation) (address : String) (articles : List Article) :
    Option (Article × Publisher) :=
  articles.reverse.findSome? (derivation.known? address)

theorem known?_eq_some_iff {article article' : Article} {publisher : Publisher} :
    derivation.known? key article = some (article', publisher) ↔
      article' = article ∧ article.url = key ∧
        derivation.publishers.get? article.publisherId = some publisher := by
  unfold known?
  split_ifs with hurl
  · simp [hurl, and_comm, eq_comm]
  · simp [hurl]

theorem known?_eq_none_iff {article : Article} :
    derivation.known? key article = none ↔
      (article.url = key → derivation.publishers.get? article.publisherId = none) := by
  simp [known?]

theorem lastKnown?_concat (article : Article) :
    derivation.lastKnown? key (articles ++ [article]) =
      (derivation.known? key article).or (derivation.lastKnown? key articles) := by
  rw [lastKnown?, List.reverse_append, List.reverse_singleton, List.singleton_append,
    List.findSome?_cons]
  cases derivation.known? key article <;> rfl

/-- None of the articles behind the last one would have done. -/
theorem lastKnown?_eq_some_iff {article : Article} {publisher : Publisher} :
    derivation.lastKnown? key articles = some (article, publisher) ↔
      ∃ before after, articles = before ++ article :: after ∧ article.url = key ∧
        derivation.publishers.get? article.publisherId = some publisher ∧
        ∀ later ∈ after, later.url = key →
          derivation.publishers.get? later.publisherId = none := by
  -- the last one is the first one of the reversed list
  rw [lastKnown?, List.findSome?_eq_some_iff]
  constructor
  · rintro ⟨after, found, before, hreverse, hfound, hafter⟩
    obtain ⟨rfl, hurl, hpublisher⟩ := known?_eq_some_iff.mp hfound
    refine ⟨before.reverse, after.reverse, ?_, hurl, hpublisher, fun later hlater => ?_⟩
    · simpa using List.reverse_eq_iff.mp hreverse
    · exact known?_eq_none_iff.mp (hafter later (List.mem_reverse.mp hlater))
  · rintro ⟨before, after, rfl, hurl, hpublisher, hafter⟩
    refine ⟨after.reverse, article, before.reverse, by simp, ?_, fun later hlater => ?_⟩
    · exact known?_eq_some_iff.mpr ⟨rfl, hurl, hpublisher⟩
    · exact known?_eq_none_iff.mpr (hafter later (List.mem_reverse.mp hlater))

/-- An article of a known publisher puts its signal in place of an earlier one, and an article of an
unknown publisher leaves the earlier one where it is. -/
theorem get?_addArticle {before after : Signals} {article : Article}
    (h : derivation.addArticle totals before article = some after) (key : String) :
    after.get? key =
      match derivation.known? key article with
      | some (article, publisher) => derivation.articleSignal? totals publisher article
      | none => before.get? key := by
  unfold addArticle at h
  unfold known?
  cases hpublisher : derivation.publishers.get? article.publisherId with
  | none =>
    rw [hpublisher] at h
    -- an article of an unknown publisher changes nothing
    obtain rfl : before = after := Option.some.inj h
    simp
  | some publisher =>
    rw [hpublisher] at h
    obtain ⟨signal, hsignal, rfl⟩ := Option.map_eq_some_iff.mp h
    rw [Dict.get?_insert]
    split_ifs
    · exact hsignal.symm
    · rfl

/-- The last of several articles decides. -/
theorem get?_foldlM_addArticle (h : articles.foldlM (derivation.addArticle totals) ∅ = some signals)
    (key : String) :
    signals.get? key = (derivation.lastKnown? key articles).bind fun found =>
      derivation.articleSignal? totals found.2 found.1 := by
  -- from the back, since the article added last is the one that counts
  induction articles using List.reverseRecOn generalizing signals with
  | nil =>
    obtain rfl : ∅ = signals := Option.some.inj h
    rfl
  | append_singleton articles article ih =>
    rw [List.foldlM_append] at h
    obtain ⟨earlier, hearlier, hlast⟩ := Option.bind_eq_some_iff.mp h
    obtain ⟨later, hadd, hpure⟩ := Option.bind_eq_some_iff.mp hlast
    obtain rfl : later = signals := Option.some.inj hpure
    rw [lastKnown?_concat, get?_addArticle hadd key, ih hearlier]
    cases derivation.known? key article <;> rfl

theorem get?_foldl_addChannel (channels : List Channel) (signals : Signals) (key : String) :
    (channels.foldl (derivation.addChannel totals) signals).get? key =
      if ⟨key⟩ ∈ channels then some (derivation.channelSignal totals ⟨key⟩)
      else signals.get? key := by
  induction channels using List.reverseRecOn with
  | nil => rfl
  | append_singleton channels channel ih =>
    rw [List.foldl_append, List.foldl_cons, List.foldl_nil, addChannel, Dict.get?_insert, ih]
    by_cases heq : channel.name = key
    · obtain rfl : channel = ⟨key⟩ := by rw [← heq]
      simp
    · have hne : (⟨key⟩ : Channel) ≠ channel := fun hkey => heq (by rw [← hkey])
      simp [heq, hne]

/-- What stands under a key. -/
theorem get?_signals (h : derivation.signals? articles = some signals) (key : String) :
    signals.get? key =
      if ⟨key⟩ ∈ Channel.listed derivation.publishers derivation.settings.locale then
        some (derivation.channelSignal derivation.totals ⟨key⟩)
      else (derivation.lastKnown? key articles).bind fun found =>
        derivation.articleSignal? derivation.totals found.2 found.1 := by
  obtain ⟨ofArticles, hfold, rfl⟩ := Option.map_eq_some_iff.mp h
  rw [get?_foldl_addChannel, get?_foldlM_addArticle hfold]

theorem mem_of_lastKnown? {article : Article} {publisher : Publisher}
    (h : derivation.lastKnown? key articles = some (article, publisher)) :
    article ∈ articles ∧ article.url = key ∧
      derivation.publishers.get? article.publisherId = some publisher := by
  obtain ⟨before, after, rfl, hurl, hpublisher, -⟩ := lastKnown?_eq_some_iff.mp h
  exact ⟨by simp, hurl, hpublisher⟩

/-! ### Weights from derived signals -/

/-- The signal of a channel gives an article no weight: as far as it knows, nothing is popular. -/
theorem articleWeight_channelSignal (channel : Channel) (settings : Settings) :
    Binary64.number ((derivation.channelSignal totals channel).articleWeight settings) = 0 := by
  refine Binary64.number_mul_eq_zero (.inl ?_)
  refine Binary64.number_mul_eq_zero (.inl ?_)
  exact Binary64.number_mul_eq_zero (.inr Binary64.number_zero)

theorem blocked_of_articleSignal? {publisher : Publisher} {article : Article} {signal : Signal}
    (h : derivation.articleSignal? totals publisher article = some signal) :
    signal.blocked = decide (publisher.status = .disabled) := by
  obtain ⟨popRecency, -, rfl⟩ := Option.map_eq_some_iff.mp h
  rfl

/-- What gives an article weight is the signal of the last article at its address. -/
theorem exists_last_of_weight_pos {settings : Settings} {article : Article}
    (hsignals : derivation.signals? articles = some signals)
    (h : 0.0 < article.weight signals settings) :
    ⟨article.url⟩ ∉ Channel.listed derivation.publishers derivation.settings.locale ∧
    ∃ last publisher, derivation.lastKnown? article.url articles = some (last, publisher) ∧
      publisher.status ≠ .disabled := by
  obtain ⟨signal, hget, hblocked, hweight⟩ := Article.exists_signal_of_weight_pos h
  rw [get?_signals hsignals] at hget
  split_ifs at hget with hlisted
  · -- the signal of a channel has taken the place of those of the articles, and gives no weight
    obtain rfl := Option.some.inj hget
    have hlt := (Binary64.lt_iff.mp hweight).2.2
    rw [articleWeight_channelSignal, Binary64.number_zero] at hlt
    exact absurd hlt (lt_irrefl _)
  · obtain ⟨⟨last, publisher⟩, hlast, hsignal⟩ := Option.bind_eq_some_iff.mp hget
    refine ⟨hlisted, last, publisher, hlast, fun hdisabled => ?_⟩
    rw [blocked_of_articleSignal? hsignal, hdisabled] at hblocked
    cases hblocked

end Derivation

/-! ### Who is shown -/

namespace Run

variable {derivation : Derivation} {suggested : List Publisher} {articles : List Article}
  {signals : Signals} {channels : List Channel} {settings : Settings} {tape tape' : Tape}
  {run : Run}

/-- Every article of a feed made from derived signals has the address of an article whose publisher
is known and not disabled, the last known one there, and not the name of a listed channel.  Its own
publisher is known and not disabled if all the articles at its address have one publisher. -/
theorem make_shows_last_known (hsignals : derivation.signals? articles = some signals)
    (h : make ⟨derivation.publishers, suggested, articles, signals, channels⟩ settings tape =
      some (run, tape')) :
    ∀ article ∈ run.articles,
      ⟨article.url⟩ ∉ Channel.listed derivation.publishers derivation.settings.locale ∧
      (∃ last publisher, derivation.lastKnown? article.url articles = some (last, publisher) ∧
        publisher.status ≠ .disabled) ∧
      ((∀ other ∈ articles, other.url = article.url → other.publisherId = article.publisherId) →
        ∃ publisher, derivation.publishers.get? article.publisherId = some publisher ∧
          publisher.status ≠ .disabled) := by
  intro article hmem
  obtain ⟨hgiven, hweight⟩ := List.mem_filter.mp (mem_screened_of_mem_articles h hmem)
  obtain ⟨hlisted, last, publisher, hlast, hstatus⟩ :=
    Derivation.exists_last_of_weight_pos hsignals (decide_eq_true_eq.mp hweight)
  -- the article whose signal counts may be another one under the same address
  refine ⟨hlisted, ⟨last, publisher, hlast, hstatus⟩, fun hone => ⟨publisher, ?_, hstatus⟩⟩
  obtain ⟨hmem, hurl, hpublisher⟩ := Derivation.mem_of_lastKnown? hlast
  rwa [hone last hmem hurl] at hpublisher

/-- What is known of a user who disabled one of two publishers. -/
def oneDisabled : Derivation where
  settings := {}
  now := ⟨19723, 43200, 0, by decide, by decide, by decide, by decide⟩
  publishers := Dict.ofList
    [("p", { id := "p", name := "p", status := .disabled }), ("q", { id := "q", name := "q" })]
  visits := ∅
  subscriptions := {}

/-- Three articles, two of which have one address and different publishers. -/
def sharingAddress : List Article :=
  [{ id := "a", publisherId := "p", url := "u" }, { id := "b", publisherId := "q", url := "u" },
    { id := "c", publisherId := "q", url := "v" }]

/-- The first article is shown, and its publisher is disabled. -/
theorem make_shows_last_known_sharing :
    ∃ signals run tape', oneDisabled.signals? sharingAddress = some signals ∧
      make ⟨oneDisabled.publishers, [], sharingAddress, signals, []⟩ {} steadyTape =
        some (run, tape') ∧
      (∃ article ∈ run.articles, article.id = "a" ∧
        (oneDisabled.publishers.get? article.publisherId).map Publisher.status = some .disabled ∧
        ∃ last publisher, oneDisabled.lastKnown? article.url sharingAddress =
          some (last, publisher) ∧ publisher.status ≠ .disabled) ∧
      ∃ article ∈ run.articles, article.id = "c" ∧
        ∃ publisher, oneDisabled.publishers.get? article.publisherId = some publisher ∧
          publisher.status ≠ .disabled := by
  have hmake : ((oneDisabled.signals? sharingAddress).bind fun signals =>
      (make ⟨oneDisabled.publishers, [], sharingAddress, signals, []⟩ {} steadyTape).map
        fun result => (signals, result)).map (fun made => made.2.1.articles) =
      some (sharingAddress.rotate 1) := by
    decide +kernel
  -- the run is evaluated once, and what it shows then follows from the theorem
  obtain ⟨⟨signals, run, tape'⟩, hmade, harticles⟩ := Option.map_eq_some_iff.mp hmake
  obtain ⟨signals', hsignals, hresult⟩ := Option.bind_eq_some_iff.mp hmade
  obtain ⟨result, h, heq⟩ := Option.map_eq_some_iff.mp hresult
  obtain ⟨rfl, rfl⟩ := Prod.mk.inj heq
  have hshows := make_shows_last_known hsignals h
  have hmem : ∀ article ∈ sharingAddress, article ∈ run.articles := fun article hmem => by
    rw [show run.articles = sharingAddress.rotate 1 from harticles]
    exact List.mem_rotate.mpr hmem
  refine ⟨signals', run, tape', hsignals, h, ?_, ?_⟩
  · have ha := hmem { id := "a", publisherId := "p", url := "u" } (by decide +kernel)
    exact ⟨_, ha, rfl, by decide +kernel, (hshows _ ha).2.1⟩
  · have hc := hmem { id := "c", publisherId := "q", url := "v" } (by decide +kernel)
    exact ⟨_, hc, rfl, (hshows _ hc).2.2 (by decide +kernel)⟩

end Run

end NewsFeed
