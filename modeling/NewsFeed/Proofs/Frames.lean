/-
What generators leave alone.

A generator takes something out of a snapshot and leaves all else as it was.  Blocks and clusters
take articles, each from a place of its own, and the other articles stay in their order; a discover
card takes publishers from the front of the suggestions.  A generator that makes nothing takes
nothing, wherever it gave up: before the first draw, after a channel was drawn but no hero can be,
or because no card is due.

* `isWithout_of_made` — what a block takes are the articles it shows;
* `generate_eq_nil_iff`, `Cluster.generateRandom_cases` — when nothing comes out;
* `generators_leave_the_rest` — all generators at once.
-/
import NewsFeed.Proofs.Cards
import NewsFeed.Proofs.Places

namespace NewsFeed

/-- Whether a snapshot is what is left of another when some articles are removed: they stood at
different places of the pool, and nothing else is changed. -/
def Snapshot.IsWithout (left snapshot : Snapshot) (shown : List Article) : Prop :=
  ∃ places : List ℕ, places.Nodup ∧ places.map (snapshot.articles[·]?) = shown.map some ∧
    left = { snapshot with
      articles := (snapshot.articles.zipIdx.filter fun item => item.2 ∉ places).map Prod.fst }

variable {snapshot left : Snapshot} {settings : Settings} {tape tape' : Tape}

/-- Without no articles a snapshot is the same. -/
theorem Snapshot.isWithout_nil_iff : left.IsWithout snapshot [] ↔ left = snapshot := by
  have hall : (snapshot.articles.zipIdx.filter fun item => item.2 ∉ ([] : List ℕ)).map Prod.fst =
      snapshot.articles := filter_zipIdx_of_lt _ fun _ hmem => absurd hmem List.not_mem_nil
  constructor
  · rintro ⟨places, -, hshown, rfl⟩
    obtain rfl := List.map_eq_nil_iff.mp hshown
    rw [hall]
  · rintro rfl
    exact ⟨[], List.nodup_nil, rfl, by rw [hall]⟩

namespace Block

variable {scope : Scope} {elements : List ArticleElement}

/-- Whether no hero can be drawn from a scope. -/
def IsDry (settings : Settings) (snapshot : Snapshot) (scope : Scope) : Prop :=
  ∃ cause, Lottery.ofWeights (weights snapshot.signals settings (candidates snapshot scope)) =
    .error cause

/-- A block takes the articles it shows. -/
theorem isWithout_of_made (h : Made snapshot scope elements left) :
    left.IsWithout snapshot (elements.map ArticleElement.article) := by
  cases h with
  | nothing => exact Snapshot.isWithout_nil_iff.mpr rfl
  | block hero inlines taken unvisited =>
    have hpool : (hero :: inlines.map Prod.fst).Subperm (Candidate.ofPool snapshot.articles) :=
      taken.trans List.filter_sublist.subperm
    -- each candidate stands in the pool at its own place
    have hstand := (stand_ofPool snapshot.articles).subset hpool.subset
    refine ⟨(hero :: inlines.map Prod.fst).map Candidate.place,
      Candidate.nodup_place_of_subperm hpool, ?_, ?_⟩
    · have harticles : (assemble snapshot hero inlines).1.map ArticleElement.article =
          (hero :: inlines.map Prod.fst).map Candidate.article := by
        rw [assemble, List.map_cons, Made.article_ofInline]
        rfl
      rw [harticles, List.map_map, List.map_map]
      exact List.map_congr_left hstand
    · rw [assemble, Candidate.left_eq_filter_zipIdx, List.map_cons, List.map_map]
      rfl

/-- A block is empty exactly if no hero can be drawn. -/
theorem generate_eq_nil_iff
    (h : generate snapshot scope settings tape = some ((elements, left), tape')) :
    elements = [] ↔ IsDry settings snapshot scope := by
  rcases generate_cases h with
    ⟨rfl, -, hdry⟩ | ⟨lottery, hero, others, inlines, slots, mid, hgood, -, -, rfl, -⟩
  · exact iff_of_true rfl hdry
  · -- with a hero the block has an element
    refine iff_of_false (List.cons_ne_nil _ _) fun ⟨cause, hbad⟩ => ?_
    cases hgood.symm.trans hbad

end Block

namespace Cluster

variable {element : Option Element}

/-- A cluster takes the articles it shows, and there is none exactly if no hero can be drawn. -/
theorem generate_cases {channel : String}
    (h : generate snapshot channel settings tape = some ((element, left), tape')) :
    left.IsWithout snapshot (element.toList.flatMap Element.articles) ∧
      (element = none ↔ Block.IsDry settings snapshot (.channel channel)) := by
  obtain ⟨elements, hblock, hcases⟩ := Run.cluster_cases h
  have hwithout := Block.isWithout_of_made (Block.generate_made hblock)
  have hdry := Block.generate_eq_nil_iff hblock
  rcases hcases with ⟨rfl, rfl⟩ | ⟨hne, rfl⟩
  · exact ⟨hwithout, iff_of_true rfl (hdry.mp rfl)⟩
  · refine ⟨?_, iff_of_false (Option.some_ne_none _) (mt hdry.mpr hne)⟩
    simpa [Element.articles] using hwithout

/-- The weights of the channels. -/
def weights (snapshot : Snapshot) (settings : Settings) : List Float :=
  snapshot.channels.map fun channel => channel.weight snapshot.signals settings

/-- A cluster of a channel drawn by weight takes the articles it shows.  There is none exactly if no
channel can be drawn, or if one is drawn of which no hero can be. -/
theorem generateRandom_cases
    (h : generateRandom snapshot settings tape = some ((element, left), tape')) :
    left.IsWithout snapshot (element.toList.flatMap Element.articles) ∧
      (element = none ↔
        (∃ cause, Lottery.ofWeights (weights snapshot settings) = .error cause) ∨
        ∃ lottery channel, Lottery.ofWeights (weights snapshot settings) = .ok lottery ∧
          snapshot.channels[lottery.winner (tape.word tape.used)]? = some channel ∧
          Block.IsDry settings snapshot (.channel channel.name)) := by
  obtain ⟨result, mid, hpick, hrest⟩ := Draw.bind_eq_some.mp h
  cases hweights : Lottery.ofWeights (weights snapshot settings) with
  | error cause =>
    -- no channel is drawn, so no cluster is tried
    rw [Draw.pick_of_error hweights] at hpick
    cases hpick
    cases hrest
    exact ⟨Snapshot.isWithout_nil_iff.mpr rfl, iff_of_true rfl (.inl ⟨cause, rfl⟩)⟩
  | ok lottery =>
    obtain ⟨channel, hchannel, -, hdone⟩ := Draw.pick_of_ok hweights tape
    rw [hdone] at hpick
    cases hpick
    -- a channel is drawn, and the rest is up to its cluster
    obtain ⟨hwithout, hnone⟩ := generate_cases hrest
    refine ⟨hwithout, hnone.trans ⟨fun hdry => .inr ⟨lottery, channel, rfl, hchannel, hdry⟩, ?_⟩⟩
    rintro (⟨cause, hbad⟩ | ⟨lottery', channel', hok, hchannel', hdry⟩)
    · cases hbad
    · obtain rfl := Except.ok.inj hok
      obtain rfl := Option.some.inj (hchannel.symm.trans hchannel')
      exact hdry

end Cluster

/-- **Generators leave the rest alone.**  Blocks and clusters take the articles they show out of the
pool and change nothing else, and discover cards take the publishers they show from the front of the
suggestions and change nothing else.  A generator that makes nothing, or an advert, leaves the whole
snapshot as it was.  Nothing comes out of a block of which no hero can be drawn, not even after a
channel was drawn for it. -/
theorem generators_leave_the_rest (snapshot : Snapshot) (settings : Settings) (tape : Tape) :
    (∀ scope elements left tape',
      Block.generate snapshot scope settings tape = some ((elements, left), tape') →
        left.IsWithout snapshot (elements.map ArticleElement.article) ∧
        (elements = [] → left = snapshot) ∧
        (elements = [] ↔ Block.IsDry settings snapshot scope)) ∧
    (∀ channel element left tape',
      Cluster.generate snapshot channel settings tape = some ((element, left), tape') →
        left.IsWithout snapshot (element.toList.flatMap Element.articles) ∧
        (element = none → left = snapshot) ∧
        (element = none ↔ Block.IsDry settings snapshot (.channel channel))) ∧
    (∀ element left tape',
      Cluster.generateRandom snapshot settings tape = some ((element, left), tape') →
        left.IsWithout snapshot (element.toList.flatMap Element.articles) ∧
        (element = none → left = snapshot) ∧
        (element = none ↔
          (∃ cause, Lottery.ofWeights (Cluster.weights snapshot settings) = .error cause) ∨
          ∃ lottery channel, Lottery.ofWeights (Cluster.weights snapshot settings) = .ok lottery ∧
            snapshot.channels[lottery.winner (tape.word tape.used)]? = some channel ∧
            Block.IsDry settings snapshot (.channel channel.name))) ∧
    ∀ iteration element left tape',
      Card.generate snapshot iteration settings tape = some ((element, left), tape') →
        (element = none ∨ element = some .advert) ∧ left = snapshot ∨
        ∃ publishers suggested, element = some (.discover publishers) ∧
          snapshot.suggested = publishers ++ suggested ∧ left = { snapshot with suggested } := by
  refine ⟨fun scope elements left tape' h => ?_, fun channel element left tape' h => ?_,
    fun element left tape' h => ?_, fun iteration element left tape' h => ?_⟩
  · have hwithout := Block.isWithout_of_made (Block.generate_made h)
    refine ⟨hwithout, ?_, Block.generate_eq_nil_iff h⟩
    rintro rfl
    exact Snapshot.isWithout_nil_iff.mp hwithout
  · obtain ⟨hwithout, hnone⟩ := Cluster.generate_cases h
    refine ⟨hwithout, ?_, hnone⟩
    rintro rfl
    exact Snapshot.isWithout_nil_iff.mp hwithout
  · obtain ⟨hwithout, hnone⟩ := Cluster.generateRandom_cases h
    refine ⟨hwithout, ?_, hnone⟩
    rintro rfl
    exact Snapshot.isWithout_nil_iff.mp hwithout
  · rcases Run.card_cases h with ⟨-, rfl, hleft⟩ | ⟨-, rfl, hleft⟩ | ⟨-, rfl, hleft⟩
    · exact .inl ⟨.inl rfl, hleft⟩
    · exact .inl ⟨.inr rfl, hleft⟩
    · exact .inr ⟨_, _, rfl, (List.take_append_drop _ _).symm, hleft⟩

/-- A snapshot of a channel that can be drawn, and of an article of it that cannot. -/
def quiet : Snapshot where
  publishers := Dict.ofList [("p", ⟨"p", "p", "", [⟨"en_US", ["Tech"]⟩], .notModified⟩)]
  articles := [⟨"a", "p", "a", 1.0, none⟩]
  signals := Dict.ofList [("Tech", { channelSubscribed := true, channelVisits := 1.0 })]
  channels := [⟨"Tech"⟩]

theorem generators_leave_the_rest_quiet :
    ((Lottery.ofWeights (Cluster.weights quiet {})).isOk = true ∧ ∃ tape',
      Cluster.generateRandom quiet {} Run.steadyTape = some ((none, quiet), tape')) ∧
    (Block.IsDry {} quiet (.channel "Tech") ∧ ∃ tape',
      Cluster.generate quiet "Tech" {} Run.steadyTape = some ((none, quiet), tape')) ∧
    (∃ elements left tape', elements.length = 3 ∧
      Block.generate Block.interleaved (.channel "Tech") Block.curious Run.steadyTape =
        some ((elements, left), tape') ∧
      left.IsWithout Block.interleaved (elements.map ArticleElement.article)) ∧
    ∃ publishers suggested tape', publishers.length = 2 ∧
      Card.generate Run.suggestive 0 Run.discoversOnly Run.steadyTape =
        some ((some (.discover publishers), { Run.suggestive with suggested }), tape') ∧
      Run.suggestive.suggested = publishers ++ suggested := by
  obtain ⟨-, hcluster, hrandom, -⟩ := generators_leave_the_rest quiet {} Run.steadyTape
  refine ⟨⟨by decide +kernel, ?_⟩, ?_, ?_, ?_⟩
  · have hnone : (Cluster.generateRandom quiet {} Run.steadyTape).map (·.1.1) = some none := by
      decide +kernel
    obtain ⟨⟨⟨element, left⟩, tape'⟩, h, rfl⟩ := Option.map_eq_some_iff.mp hnone
    obtain rfl := (hrandom _ _ _ h).2.1 rfl
    exact ⟨tape', h⟩
  · have hnone : (Cluster.generate quiet "Tech" {} Run.steadyTape).map (·.1.1) = some none := by
      decide +kernel
    obtain ⟨⟨⟨element, left⟩, tape'⟩, h, rfl⟩ := Option.map_eq_some_iff.mp hnone
    obtain ⟨-, hleft, hdry⟩ := hcluster _ _ _ _ h
    obtain rfl := hleft rfl
    exact ⟨hdry.mp rfl, tape', h⟩
  · have hdrawn : (Block.generate Block.interleaved (.channel "Tech") Block.curious
        Run.steadyTape).map (·.1.1.length) = some 3 := by
      decide +kernel
    obtain ⟨⟨⟨elements, left⟩, tape'⟩, h, hlength⟩ := Option.map_eq_some_iff.mp hdrawn
    obtain ⟨hblock, -⟩ :=
      generators_leave_the_rest Block.interleaved Block.curious Run.steadyTape
    exact ⟨elements, left, tape', hlength, h, (hblock _ _ _ _ h).1⟩
  · have hdrawn : (Card.generate Run.suggestive 0 Run.discoversOnly Run.steadyTape).map (·.1.1) =
        some (some (.discover (Run.suggestive.suggested.take 2))) := by
      decide +kernel
    obtain ⟨⟨⟨element, left⟩, tape'⟩, h, helement⟩ := Option.map_eq_some_iff.mp hdrawn
    dsimp only at helement
    obtain ⟨-, -, -, hcard⟩ :=
      generators_leave_the_rest Run.suggestive Run.discoversOnly Run.steadyTape
    rcases hcard _ _ _ _ h with
      ⟨hnone | hadvert, -⟩ | ⟨publishers, suggested, hpublishers, hall, rfl⟩
    · cases helement.symm.trans hnone
    · cases helement.symm.trans hadvert
    · rw [hpublishers] at h helement
      refine ⟨publishers, suggested, tape', ?_, h, hall⟩
      rw [Element.discover.inj (Option.some.inj helement)]
      rfl

end NewsFeed
