/-
What may stand in a feed.

Articles without weight leave the pool before the first step, and no step puts one back or touches a
signal, so whatever a later step draws has a positive weight — also a discovery, whose draw does not
look at the weight at all.  Scopes and channels are checked by the step that uses them.

* `Performed.admitted` — what one step makes is admitted, if its pool has only articles of positive
  weight;
* `make_admits` — so is every element of a run, and the elements of a top news step come from
  publishers that list its channel.
-/
import NewsFeed.Proofs.Conservation

namespace NewsFeed

/-- Whether there is a signal under a key that does not block. -/
def Signals.IsUnblocked (signals : Signals) (key : String) : Prop :=
  ∃ signal, signals.get? key = some signal ∧ signal.blocked = false

/-- Whether the publisher of an article is known and lists a channel in some locale. -/
def Snapshot.Lists (snapshot : Snapshot) (channel : String) (article : Article) : Prop :=
  ∃ publisher, snapshot.publishers.get? article.publisherId = some publisher ∧
    ∃ listing ∈ publisher.listings, channel ∈ listing.channels

/-- The articles of a part of the feed as they stand in a block. -/
def Element.blockElements : Element → List ArticleElement
  | .hero article => [.hero article]
  | .inline article isDiscover => [.inline article isDiscover]
  | .cluster _ elements => elements
  | .advert => []
  | .discover _ => []

/-- What every part of a feed made from `snapshot` satisfies. -/
structure Element.Admitted (settings : Settings) (snapshot : Snapshot) (element : Element) :
    Prop where
  /-- Its articles have a positive weight. -/
  weight : ∀ article ∈ element.articles, 0.0 < article.weight snapshot.signals settings
  /-- Its articles have a signal, and it does not block. -/
  signal : ∀ article ∈ element.articles, snapshot.signals.IsUnblocked article.url
  /-- A discovery has no signal that knows of a visit. -/
  discovery : ∀ article, .inline article true ∈ element.blockElements →
    ∀ signal, snapshot.signals.get? article.url = some signal → (signal.sourceVisits == 0.0) = true
  /-- A cluster is a block of a channel that is not blocked, by publishers that list it. -/
  cluster : ∀ kind elements, element = .cluster kind elements →
    ∃ channel ∈ snapshot.channels, kind = .channel channel.name ∧
      snapshot.signals.IsUnblocked channel.name ∧
      (∃ hero inlines, elements = .hero hero :: inlines ∧
        ∀ inline ∈ inlines, ∃ article isDiscover, inline = .inline article isDiscover) ∧
      ∀ inner ∈ elements, snapshot.Lists channel.name inner.article

/-! ### Weights and scopes -/

theorem Signals.unblocked?_eq_some_iff {signals : Signals} {key : String} {signal : Signal} :
    signals.unblocked? key = some signal ↔
      signals.get? key = some signal ∧ signal.blocked = false := by
  unfold unblocked?
  cases signals.get? key with
  | none => simp
  | some found => cases hblocked : found.blocked <;> grind

theorem not_zero_pos : ¬ (0.0 : Float) < 0.0 := fun h => by
  obtain ⟨-, -, hlt⟩ := Binary64.lt_iff.mp h
  exact lt_irrefl _ hlt

/-- An article with weight has it from a signal that does not block. -/
theorem Article.exists_signal_of_weight_pos {article : Article} {signals : Signals}
    {settings : Settings} (h : 0.0 < article.weight signals settings) :
    ∃ signal, signals.get? article.url = some signal ∧ signal.blocked = false ∧
      0.0 < signal.articleWeight settings := by
  unfold weight at h
  split at h
  · rename_i signal hsignal
    obtain ⟨hget, hblocked⟩ := Signals.unblocked?_eq_some_iff.mp hsignal
    exact ⟨signal, hget, hblocked, h⟩
  · exact absurd h not_zero_pos

/-- Only an article with a signal that does not block has weight. -/
theorem Article.isUnblocked_of_weight_pos {article : Article} {signals : Signals}
    {settings : Settings} (h : 0.0 < article.weight signals settings) :
    signals.IsUnblocked article.url := by
  obtain ⟨signal, hget, hblocked, -⟩ := exists_signal_of_weight_pos h
  exact ⟨signal, hget, hblocked⟩

/-- Only a channel with a signal that does not block has weight. -/
theorem Channel.isUnblocked_of_weight_pos {channel : Channel} {signals : Signals}
    {settings : Settings} (h : 0.0 < channel.weight signals settings) :
    signals.IsUnblocked channel.name := by
  unfold weight at h
  split at h
  · rename_i signal hsignal
    exact ⟨signal, Signals.unblocked?_eq_some_iff.mp hsignal⟩
  · exact absurd h not_zero_pos

theorem Article.sourceVisits_of_isUnvisited {article : Article} {signals : Signals}
    (h : article.isUnvisited signals = true) {signal : Signal}
    (hsignal : signals.get? article.url = some signal) : (signal.sourceVisits == 0.0) = true := by
  rw [isUnvisited, hsignal] at h
  exact h

/-- The scope of a channel admits the articles of publishers that list it. -/
theorem Scope.admits_channel_iff {snapshot : Snapshot} {channel : String} {article : Article} :
    (Scope.channel channel).admits snapshot.publishers article = true ↔
      snapshot.Lists channel article := by
  rw [admits, Snapshot.Lists]
  cases snapshot.publishers.get? article.publisherId with
  | none => simp
  | some publisher => simp [Publisher.inChannel]

/-! ### Steps -/

namespace Run

variable {settings : Settings} {snapshot snapshot' : Snapshot} {step : Step}
  {produced : List Element} {tape tape' : Tape}

/-- Admission looks only at what a run leaves alone. -/
theorem admitted_of_within {element : Element} (h : element.Admitted settings snapshot')
    (hwithin : snapshot'.Within snapshot) : element.Admitted settings snapshot := by
  obtain ⟨publishers', suggested', articles', signals', channels'⟩ := snapshot'
  obtain ⟨publishers, suggested, articles, signals, channels⟩ := snapshot
  obtain ⟨rfl, rfl, rfl, -⟩ := hwithin
  exact ⟨h.weight, h.signal, h.discovery, h.cluster⟩

theorem blockElements_ofArticleElement (element : ArticleElement) :
    (Element.ofArticleElement element).blockElements = [element] := by
  cases element <;> rfl

/-- What a step makes of a pool of articles with weight is admitted. -/
theorem Performed.admitted (h : Performed settings snapshot step produced snapshot')
    (hpool : ∀ article ∈ snapshot.articles, 0.0 < article.weight snapshot.signals settings)
    {element : Element} (hmem : element ∈ produced) : element.Admitted settings snapshot := by
  -- what a step shows comes out of the pool, whichever way it was drawn
  have hweight : ∀ article ∈ element.articles, 0.0 < article.weight snapshot.signals settings := by
    intro article harticle
    have hflat := List.mem_flatMap.mpr ⟨element, hmem, harticle⟩
    exact hpool article (h.perm.subset (List.mem_append_left _ hflat))
  have hsignal : ∀ article ∈ element.articles, snapshot.signals.IsUnblocked article.url :=
    fun article harticle => Article.isUnblocked_of_weight_pos (hweight article harticle)
  cases h with
  | block scope_eq made =>
    obtain ⟨inner, hinner, rfl⟩ := List.mem_map.mp hmem
    refine ⟨hweight, hsignal, fun article hdiscovery signal => ?_, fun kind elements heq => ?_⟩
    · rw [blockElements_ofArticleElement, List.mem_singleton] at hdiscovery
      subst hdiscovery
      exact Article.sourceVisits_of_isUnvisited (made.unvisited hinner)
    · cases inner <;> cases heq
  | @cluster channel elements snapshot' mem weight made nonempty =>
    obtain rfl := List.mem_singleton.mp hmem
    refine ⟨hweight, hsignal, fun article hdiscovery signal => ?_, fun kind elements' heq => ?_⟩
    · exact Article.sourceVisits_of_isUnvisited (made.unvisited hdiscovery)
    · cases heq
      exact ⟨channel, mem, rfl, Channel.isUnblocked_of_weight_pos weight,
        made.shape.resolve_left nonempty, fun inner hinner =>
          Scope.admits_channel_iff.mp (made.admits hinner)⟩
  | noCluster => cases hmem
  | card suggested special =>
    have hspecial := special element hmem
    refine ⟨hweight, hsignal, fun article hdiscovery => ?_, fun kind elements heq => ?_⟩
    · cases element with
      | hero article' => cases hspecial
      | inline article' isDiscover => cases hspecial
      | cluster kind elements => cases hspecial
      | advert => cases hdiscovery
      | discover publishers => cases hdiscovery
    · subst heq
      cases hspecial

/-- What a top news step makes comes from publishers that list its channel. -/
theorem Performed.lists_topNews (h : Performed settings snapshot .topNews produced snapshot')
    {element : Element} (hmem : element ∈ produced) {article : Article}
    (harticle : article ∈ element.articles) : snapshot.Lists settings.topNewsChannel article := by
  cases h with
  | block scope_eq made =>
    cases scope_eq
    obtain ⟨inner, hinner, rfl⟩ := List.mem_map.mp hmem
    rw [Element.articles_ofArticleElement, List.mem_singleton] at harticle
    subst harticle
    exact Scope.admits_channel_iff.mp (made.admits hinner)

/-! ### Runs -/

theorem weight_pos_of_within (hwithin : snapshot'.Within (screened snapshot settings))
    {article : Article} (hmem : article ∈ snapshot'.articles) :
    0.0 < article.weight snapshot'.signals settings := by
  rw [hwithin.signals]
  obtain ⟨-, hweight⟩ := List.mem_filter.mp (hwithin.articles.subset hmem)
  exact decide_eq_true_eq.mp hweight

theorem screened_within (snapshot : Snapshot) (settings : Settings) :
    (screened snapshot settings).Within snapshot :=
  ⟨rfl, rfl, rfl, List.filter_sublist⟩

/-- Every part of a feed is admitted.  The parts that its top news steps made come from publishers
that list the top news channel. -/
theorem make_admits {run : Run} (h : make snapshot settings tape = some (run, tape')) :
    (∀ element ∈ run.elements, element.Admitted settings snapshot) ∧
    ∃ parts : List (StepTrace × List Element), parts.map Prod.fst = run.steps ∧
      parts.flatMap Prod.snd = run.elements ∧
      ∀ part ∈ parts, part.2.length = part.1.produced ∧
        (part.1.step = .topNews → ∀ element ∈ part.2, ∀ article ∈ element.articles,
          snapshot.Lists settings.topNewsChannel article) := by
  obtain ⟨last, hreaches, -, rfl⟩ := make_reaches h
  obtain ⟨parts, hsteps, helements, hparts⟩ := hreaches.hasParts rfl rfl
  have hscreened := screened_within snapshot settings
  constructor
  · intro element hmem
    obtain ⟨part, hpart, hmem⟩ := List.mem_flatMap.mp (helements ▸ hmem)
    obtain ⟨before, after, hwithin, hperformed, -⟩ := (hparts part hpart).performed
    -- admitted by the snapshot before its step, which is a part of the first one
    have hadmitted := hperformed.admitted (fun _ => weight_pos_of_within hwithin) hmem
    exact admitted_of_within hadmitted (hwithin.trans hscreened)
  · refine ⟨parts, hsteps, helements, fun part hpart => ⟨(hparts part hpart).produced.symm, ?_⟩⟩
    intro hstep element hmem article harticle
    obtain ⟨before, after, hwithin, hperformed, -⟩ := (hparts part hpart).performed
    rw [hstep] at hperformed
    have hlists := hperformed.lists_topNews hmem harticle
    rwa [Snapshot.Lists, (hwithin.trans hscreened).publishers] at hlists

theorem make_admits_varied :
    ∃ run tape', make varied heroesOnly steadyTape = some (run, tape') ∧ run.elements.length = 6 ∧
      (∀ element ∈ run.elements, element.Admitted heroesOnly varied) ∧
      ∃ parts : List (StepTrace × List Element), parts.map Prod.fst = run.steps ∧
        parts.flatMap Prod.snd = run.elements := by
  obtain ⟨run, tape', h, -, -, -, hlength, -⟩ := make_varied
  obtain ⟨hadmitted, parts, hsteps, helements, -⟩ := make_admits h
  exact ⟨run, tape', h, hlength, hadmitted, parts, hsteps, helements⟩

end Run

end NewsFeed
