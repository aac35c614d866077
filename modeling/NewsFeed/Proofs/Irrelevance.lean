/-
What a feed does not depend on.

A run looks at the articles with weight and their signals, at the channels and theirs, and at which
channels the publishers of those articles list.  Snapshots that agree in this much are `Alike`.
They may differ in the articles without weight, however these stand among the others, in all other
signals and publishers, and in everything about a publisher but its channels.

Runs made from such snapshots go side by side: in every step they read the same words, make the same
elements and take the same articles, so that the snapshots left are alike again.  Only a discover
card carries the suggestions of its own snapshot, and nothing looks at suggestions.

* `perform_sideBySide` — one step on snapshots that are alike;
* `finish_sideBySide` — all further steps;
* `make_ignores` — the feeds made from snapshots that are alike.
-/
import NewsFeed.Proofs.Cards

namespace NewsFeed

/-- Whether two snapshots agree in all that decides what is drawn. -/
structure Snapshot.Alike (snapshot twin : Snapshot) : Prop where
  articles : snapshot.articles = twin.articles
  channels : snapshot.channels = twin.channels
  ofArticle : ∀ article ∈ snapshot.articles,
    snapshot.signals.get? article.url = twin.signals.get? article.url
  ofChannel : ∀ channel ∈ snapshot.channels,
    snapshot.signals.get? channel.name = twin.signals.get? channel.name
  lists : ∀ article ∈ snapshot.articles, ∀ channel,
    snapshot.Lists channel article ↔ twin.Lists channel article

namespace Snapshot.Alike

variable {snapshot twin : Snapshot}

/-- Taking the same articles out of both changes nothing. -/
theorem withArticles (h : snapshot.Alike twin) {articles : List Article}
    (hsub : articles ⊆ snapshot.articles) :
    { snapshot with articles }.Alike { twin with articles } where
  articles := rfl
  channels := h.channels
  ofArticle article hmem := h.ofArticle article (hsub hmem)
  ofChannel := h.ofChannel
  lists article hmem := h.lists article (hsub hmem)

/-- Nothing that decides what is drawn looks at the suggestions. -/
theorem withSuggested (h : snapshot.Alike twin) (suggested suggested' : List Publisher) :
    { snapshot with suggested }.Alike { twin with suggested := suggested' } :=
  ⟨h.articles, h.channels, h.ofArticle, h.ofChannel, h.lists⟩

end Snapshot.Alike

/-! ### Weights and scopes -/

variable {signals signals' : Signals} {settings : Settings}

theorem Article.weight_congr {article : Article}
    (h : signals.get? article.url = signals'.get? article.url) :
    article.weight signals settings = article.weight signals' settings := by
  rw [weight, weight, Signals.unblocked?, Signals.unblocked?, h]

theorem Article.isUnvisited_congr {article : Article}
    (h : signals.get? article.url = signals'.get? article.url) :
    article.isUnvisited signals = article.isUnvisited signals' := by
  rw [isUnvisited, isUnvisited, h]

theorem Channel.weight_congr {channel : Channel}
    (h : signals.get? channel.name = signals'.get? channel.name) :
    channel.weight signals settings = channel.weight signals' settings := by
  rw [weight, weight, Signals.unblocked?, Signals.unblocked?, h]

theorem Candidate.article_mem {pool : List Article} {candidate : Candidate}
    (h : candidate ∈ ofPool pool) : candidate.article ∈ pool := by
  rw [← map_article_ofPool pool]
  exact List.mem_map_of_mem h

namespace Block

/-! ### Blocks -/

section

variable {eligible : List Candidate}
  (h : ∀ candidate ∈ eligible,
    signals.get? candidate.article.url = signals'.get? candidate.article.url)
include h

theorem pickByWeight_congr :
    pickByWeight signals settings eligible = pickByWeight signals' settings eligible := by
  rw [pickByWeight, pickByWeight,
    Draw.pick_congr fun candidate hmem => Article.weight_congr (h candidate hmem)]

theorem pickDiscovery_congr : pickDiscovery signals eligible = pickDiscovery signals' eligible := by
  rw [pickDiscovery, pickDiscovery,
    List.filter_congr fun candidate hmem => Article.isUnvisited_congr (h candidate hmem)]

theorem pickInline_congr :
    pickInline signals settings eligible = pickInline signals' settings eligible := by
  rw [pickInline, pickInline, tryDiscovery, tryDiscovery, pickDiscovery_congr h,
    pickByWeight_congr h]

/-- The slots are filled alike: whatever fills one, the candidates for the next are some of those
for this one. -/
theorem fillSlots_congr (hnodup : (eligible.map Candidate.place).Nodup) (slots : ℕ) :
    fillSlots signals settings slots eligible = fillSlots signals' settings slots eligible := by
  induction slots generalizing eligible with
  | zero => rfl
  | succ slots ih =>
    rw [fillSlots, fillSlots, pickInline_congr h]
    split
    · rfl
    refine Draw.bind_congr_of_returned fun slot hreturned => ?_
    cases slot with
    | none => rfl
    | some found =>
      obtain ⟨tape, tape', hslot⟩ := hreturned
      obtain ⟨picked, isDiscover, others⟩ := found
      obtain ⟨htakes, -⟩ := takes_of_pickInline hnodup hslot
      -- the others are some of the eligible ones, so the signals agree on them as well
      have hothers := ih (fun candidate hmem => h candidate (htakes.sublist.subset hmem))
        (htakes.nodup hnodup)
      simp only [hothers]

end

variable {snapshot twin : Snapshot}

theorem admits_congr (h : snapshot.Alike twin) (scope : Scope) {article : Article}
    (hmem : article ∈ snapshot.articles) :
    scope.admits snapshot.publishers article = scope.admits twin.publishers article := by
  cases scope with
  | everything => rfl
  | channel name =>
    rw [Bool.eq_iff_iff, Scope.admits_channel_iff, Scope.admits_channel_iff]
    exact h.lists article hmem name

theorem candidates_congr (h : snapshot.Alike twin) (scope : Scope) :
    candidates snapshot scope = candidates twin scope := by
  rw [candidates, candidates, ← h.articles]
  exact List.filter_congr fun candidate hmem => admits_congr h scope (Candidate.article_mem hmem)

/-- The same articles make the same block of either snapshot. -/
theorem assemble_congr (h : snapshot.Alike twin) (hero : Candidate)
    (inlines : List (Candidate × Bool)) :
    (assemble snapshot hero inlines).1 = (assemble twin hero inlines).1 ∧
      (assemble snapshot hero inlines).2.Alike (assemble twin hero inlines).2 := by
  refine ⟨rfl, ?_⟩
  rw [assemble, assemble, ← h.articles]
  exact h.withArticles (Candidate.left_sublist _ _).subset

theorem generate_sideBySide (h : snapshot.Alike twin) (scope : Scope) (settings : Settings) :
    Draw.SideBySide (fun made made' => made.1 = made'.1 ∧ made.2.Alike made'.2)
      (generate snapshot scope settings) (generate twin scope settings) := by
  have hsignals : ∀ candidate ∈ candidates snapshot scope,
      snapshot.signals.get? candidate.article.url = twin.signals.get? candidate.article.url :=
    fun candidate hmem => h.ofArticle _ (Candidate.article_mem (List.mem_filter.mp hmem).1)
  have hnodup := nodup_place_candidates snapshot scope
  rw [generate, generate, ← candidates_congr h, ← pickByWeight_congr hsignals]
  split
  · exact .pure ⟨rfl, h⟩
  refine .bind_same fun count _ => .bind_same fun drawn hreturned => ?_
  cases drawn with
  | none => exact .pure ⟨rfl, h⟩
  | some found =>
    obtain ⟨hero, others⟩ := found
    obtain ⟨tape, tape', hdrawn⟩ := hreturned
    have htakes := takes_of_pickByWeight hdrawn
    -- what is left beside the hero is still in scope, where the signals agree
    dsimp only
    rw [← fillSlots_congr (fun candidate hmem => hsignals candidate (htakes.sublist.subset hmem))
      (htakes.nodup hnodup)]
    exact .bind_same fun inlines _ => .pure (assemble_congr h hero inlines)

end Block

/-! ### Clusters and cards -/

/-- A part of a feed without the publishers that it suggests. -/
def Element.withoutSuggestions : Element → Element
  | .discover _ => .discover []
  | element => element

namespace Element

theorem suggested?_withoutSuggestions (element : Element) :
    element.withoutSuggestions.suggested? = element.suggested?.map fun _ => [] := by
  cases element <;> rfl

/-- Parts of a feed that differ only in suggestions are the same part, or two discover cards. -/
theorem eq_or_discover_of_withoutSuggestions {element element' : Element}
    (h : element.withoutSuggestions = element'.withoutSuggestions) :
    element.suggested? = none ∧ element = element' ∨
    ∃ publishers publishers', element = .discover publishers ∧
      element' = .discover publishers' := by
  cases element <;> cases element' <;> first
    | exact .inr ⟨_, _, rfl, rfl⟩
    | cases h <;> exact .inl ⟨rfl, rfl⟩

theorem length_suggested_of_withoutSuggestions {elements elements' : List Element}
    (h : elements.map withoutSuggestions = elements'.map withoutSuggestions) :
    (elements.filterMap suggested?).length = (elements'.filterMap suggested?).length := by
  have hlength := congrArg (fun parts => (List.filterMap suggested? parts).length) h
  have hforget : (suggested? ∘ withoutSuggestions) = fun element : Element =>
      element.suggested?.map fun _ => [] := funext suggested?_withoutSuggestions
  simpa only [List.filterMap_map, hforget, ← List.map_filterMap, List.length_map] using hlength

/-- Parts of a feed that differ at most in suggestions, and suggest the same, are the same. -/
theorem eq_of_withoutSuggestions {elements elements' : List Element}
    (h : elements.map withoutSuggestions = elements'.map withoutSuggestions)
    (hsuggested : elements.filterMap suggested? = elements'.filterMap suggested?) :
    elements = elements' := by
  induction elements generalizing elements' with
  | nil => exact (List.map_eq_nil_iff.mp h.symm).symm
  | cons element rest ih =>
    cases elements' with
    | nil => cases h
    | cons element' rest' =>
      obtain ⟨hfirst, hrest⟩ := List.cons.inj h
      rcases eq_or_discover_of_withoutSuggestions hfirst with
        ⟨hnone, rfl⟩ | ⟨publishers, publishers', rfl, rfl⟩
      · rw [List.filterMap_cons_none hnone, List.filterMap_cons_none hnone] at hsuggested
        rw [ih hrest hsuggested]
      · obtain ⟨rfl, htail⟩ := List.cons.inj hsuggested
        rw [ih hrest htail]

end Element

variable {snapshot twin : Snapshot}

theorem Cluster.generateRandom_sideBySide (h : snapshot.Alike twin) (settings : Settings) :
    Draw.SideBySide (fun made made' => made.1 = made'.1 ∧ made.2.Alike made'.2)
      (generateRandom snapshot settings) (generateRandom twin settings) := by
  rw [generateRandom, generateRandom, ← h.channels,
    ← Draw.pick_congr fun channel hmem => Channel.weight_congr (h.ofChannel channel hmem)]
  refine .bind_same fun result _ => ?_
  cases result with
  | error cause => exact .pure ⟨rfl, h⟩
  | ok picked =>
    refine (Block.generate_sideBySide h _ settings).bind ?_
    rintro ⟨elements, left⟩ ⟨_, left'⟩ ⟨rfl, hleft⟩
    dsimp only
    split
    · exact .pure ⟨rfl, hleft⟩
    · exact .pure ⟨rfl, hleft⟩

theorem Card.generate_sideBySide (h : snapshot.Alike twin) (iteration : ℕ) (settings : Settings) :
    Draw.SideBySide (fun made made' => made.1.map Element.withoutSuggestions =
        made'.1.map Element.withoutSuggestions ∧ made.2.Alike made'.2)
      (generate snapshot iteration settings) (generate twin iteration settings) := by
  rw [generate, generate]
  split
  · exact .pure ⟨rfl, h⟩
  refine .bind_same fun heads _ => ?_
  cases heads with
  | true => exact .pure ⟨rfl, h⟩
  | false => exact .pure ⟨rfl, h.withSuggested _ _⟩

namespace Run

/-! ### Steps -/

/-- Snapshots that are alike are alike after a step, and the step makes the same of both, but for
suggestions. -/
theorem perform_sideBySide (h : snapshot.Alike twin) (step : Step) (iteration : ℕ)
    (settings : Settings) :
    Draw.SideBySide (fun made made' => made.1.map Element.withoutSuggestions =
        made'.1.map Element.withoutSuggestions ∧ made.2.Alike made'.2)
      (perform step iteration snapshot settings) (perform step iteration twin settings) := by
  cases step
  case opening | default | topNews =>
    refine (Block.generate_sideBySide h _ settings).bind ?_
    rintro ⟨elements, left⟩ ⟨_, left'⟩ ⟨rfl, hleft⟩
    exact .pure ⟨rfl, hleft⟩
  case cluster =>
    refine (Cluster.generateRandom_sideBySide h settings).bind ?_
    rintro ⟨element, left⟩ ⟨_, left'⟩ ⟨rfl, hleft⟩
    exact .pure ⟨rfl, hleft⟩
  -- the cards agree but for the publishers that they suggest
  case specialCard =>
    refine (Card.generate_sideBySide h iteration settings).bind ?_
    rintro ⟨element, left⟩ ⟨element', left'⟩ ⟨helement, hleft⟩
    refine .pure ⟨?_, hleft⟩
    rw [← Option.toList_map, ← Option.toList_map, helement]

/-! ### Runs -/

/-- Whether two runs are the same but for the number of articles left out and for suggestions. -/
structure Alike (run twin : Run) : Prop where
  elements : run.elements.map Element.withoutSuggestions =
    twin.elements.map Element.withoutSuggestions
  iterations : run.iterations = twin.iterations
  consumed : run.consumed = twin.consumed
  terminatedByBound : run.terminatedByBound = twin.terminatedByBound
  steps : run.steps = twin.steps

namespace Progress

/-- Whether two runs in the middle have come to the same point from snapshots that are alike. -/
structure Alike (progress twin : Progress) : Prop where
  snapshot : progress.snapshot.Alike twin.snapshot
  step : progress.step = twin.step
  idle : progress.idle = twin.idle
  run : progress.run.Alike twin.run

variable {progress twin : Progress} {produced produced' : List Element} {left left' : Snapshot}

theorem start_run (snapshot : Snapshot) (settings : Settings) : (start snapshot settings).run =
    { filteredOut := snapshot.articles.length - (screened snapshot settings).articles.length } :=
  rfl

theorem alike_start {snapshot twin : Snapshot}
    (h : (screened snapshot settings).Alike (screened twin settings)) :
    (start snapshot settings).Alike (start twin settings) where
  snapshot := h
  step := rfl
  idle := rfl
  run := by
    rw [start_run, start_run]
    exact ⟨rfl, rfl, rfl, rfl, rfl⟩

theorem Alike.isGoing (h : progress.Alike twin) : progress.isGoing = twin.isGoing := by
  rw [Progress.isGoing, Progress.isGoing, h.snapshot.articles, h.idle]

theorem Alike.close (h : progress.Alike twin) : progress.close.Alike twin.close where
  elements := h.run.elements
  iterations := h.run.iterations
  consumed := h.run.consumed
  terminatedByBound := by rw [Progress.close, Progress.close, h.snapshot.articles]
  steps := h.run.steps

theorem Alike.trace (h : progress.Alike twin)
    (hproduced : produced.map Element.withoutSuggestions =
      produced'.map Element.withoutSuggestions)
    (hleft : left.Alike left') : progress.trace produced left = twin.trace produced' left' := by
  have hlength : produced.length = produced'.length := by
    simpa using congrArg List.length hproduced
  rw [Progress.trace, Progress.trace, h.run.iterations, h.step, h.snapshot.articles,
    hleft.articles, hlength]

theorem Alike.record (h : progress.Alike twin)
    (hproduced : produced.map Element.withoutSuggestions =
      produced'.map Element.withoutSuggestions)
    (hleft : left.Alike left') :
    (progress.record produced left).Alike (twin.record produced' left') where
  snapshot := hleft
  step := by rw [record_step, record_step, h.step]
  idle := by rw [record_idle, record_idle, h.idle, h.snapshot.articles, hleft.articles]
  run := {
    elements := by
      rw [record_elements, record_elements, List.map_append, List.map_append, h.run.elements,
        hproduced]
    iterations := by rw [record_iterations, record_iterations, h.run.iterations]
    consumed := by
      rw [record_consumed, record_consumed, h.run.consumed, h.snapshot.articles, hleft.articles]
    terminatedByBound := h.run.terminatedByBound
    steps := by rw [record_steps, record_steps, h.run.steps, h.trace hproduced hleft] }

theorem advance_sideBySide (h : progress.Alike twin) :
    Draw.SideBySide Alike (progress.advance settings) (twin.advance settings) := by
  rw [advance, advance, ← h.step, ← h.run.iterations]
  refine (perform_sideBySide h.snapshot _ _ settings).bind ?_
  rintro ⟨produced, left⟩ ⟨produced', left'⟩ ⟨hproduced, hleft⟩
  exact .pure (h.record hproduced hleft)

/-- Runs at the same point stay side by side to their ends. -/
theorem finish_sideBySide (h : progress.Alike twin) (iterations : ℕ) :
    Draw.SideBySide Run.Alike (finish settings iterations progress)
      (finish settings iterations twin) := by
  induction iterations generalizing progress twin with
  | zero => exact .pure h.close
  | succ iterations ih =>
    rw [finish, finish, ← h.isGoing]
    split
    · exact (advance_sideBySide h).bind fun _ _ hnext => ih hnext
    · exact .pure h.close

end Progress

/-- Feeds made from snapshots that are alike in their articles with weight, and with the same
suggestions, are the same. -/
theorem make_ignores (h : (screened snapshot settings).Alike (screened twin settings))
    (tape : Tape) :
    make snapshot settings tape = none ∧ make twin settings tape = none ∨
    ∃ run run' tape', make snapshot settings tape = some (run, tape') ∧
      make twin settings tape = some (run', tape') ∧ run.Alike run' ∧
      (snapshot.suggested = twin.suggested → run.elements = run'.elements) := by
  rcases Progress.finish_sideBySide (Progress.alike_start h) settings.maxIterations.toNat tape with
    hnone | ⟨run, run', tape', hrun, hrun', halike⟩
  · exact .inl hnone
  refine .inr ⟨run, run', tape', hrun, hrun', halike, fun hsuggested => ?_⟩
  obtain ⟨last, hreaches, -, rfl⟩ := make_reaches hrun
  obtain ⟨last', hreaches', -, rfl⟩ := make_reaches hrun'
  refine Element.eq_of_withoutSuggestions halike.elements ?_
  -- there are as many discover cards in both, and their number decides what they carry
  have hcards : last.run.suggestions.length = last'.run.suggestions.length :=
    Element.length_suggested_of_withoutSuggestions halike.elements
  calc last.run.suggestions
      = (List.range last.run.suggestions.length).map
          (Card.piece snapshot.suggested settings.discoverCardSize.toNat) :=
        hreaches.suggesting.pieces
    _ = (List.range last'.run.suggestions.length).map
          (Card.piece twin.suggested settings.discoverCardSize.toNat) := by
        rw [hcards, hsuggested]
    _ = last'.run.suggestions := hreaches'.suggesting.pieces.symm

/-- The snapshot `varied` with two more articles without weight, one of them blocked, other things
known of the publishers, a signal that belongs to nothing, and a suggestion. -/
def retold : Snapshot where
  publishers := Dict.ofList
    [("p", ⟨"p", "P", "p.example", [⟨"de_DE", []⟩, ⟨"fr_FR", ["Tech"]⟩], .disabled⟩),
      ("q", ⟨"q", "Q", "", [⟨"en_US", []⟩], .enabled⟩)]
  suggested := [⟨"s", "s", "", [], .notModified⟩]
  articles := [⟨"g", "p", "g", 0.0, none⟩, ⟨"a", "p", "a", 0.0, none⟩, ⟨"b", "p", "b", 0.0, none⟩,
    ⟨"h", "r", "h", 0.0, none⟩, ⟨"c", "q", "c", 0.0, none⟩, ⟨"d", "q", "d", 0.0, none⟩,
    ⟨"e", "q", "e", 0.0, none⟩]
  signals := Dict.ofList [("a", followed), ("b", followed), ("c", followed), ("d", followed),
    ("e", followed), ("Tech", followed), ("g", { followed with blocked := true }),
    ("nothing", followed)]
  channels := [⟨"Tech"⟩]

theorem screened_varied_alike_retold :
    (screened varied heroesOnly).Alike (screened retold heroesOnly) where
  articles := by decide +kernel
  channels := rfl
  ofArticle := by decide +kernel
  ofChannel := by decide +kernel
  lists := by
    have hids : ∀ article ∈ (screened varied heroesOnly).articles,
        article.publisherId = "p" ∨ article.publisherId = "q" := by
      decide +kernel
    have hp : varied.publishers.get? "p" =
        some ⟨"p", "p", "", [⟨"en_US", ["Tech"]⟩], .notModified⟩ := by decide +kernel
    have hp' : retold.publishers.get? "p" =
        some ⟨"p", "P", "p.example", [⟨"de_DE", []⟩, ⟨"fr_FR", ["Tech"]⟩], .disabled⟩ := by
      decide +kernel
    have hq : varied.publishers.get? "q" = none := by decide +kernel
    have hq' : retold.publishers.get? "q" = some ⟨"q", "Q", "", [⟨"en_US", []⟩], .enabled⟩ := by
      decide +kernel
    intro article hmem channel
    show (∃ publisher, varied.publishers.get? _ = some publisher ∧ _) ↔
      ∃ publisher, retold.publishers.get? _ = some publisher ∧ _
    -- one publisher lists the channel in both, the other one in neither
    rcases hids article hmem with hid | hid
    · simp [hid, hp, hp']
    · simp [hid, hq, hq']

/-- Other suggestions make a snapshot no less alike. -/
theorem screened_alike_withSuggested
    (h : (screened snapshot settings).Alike (screened twin settings))
    (suggested : List Publisher) :
    (screened snapshot settings).Alike (screened { twin with suggested } settings) :=
  h.withSuggested snapshot.suggested suggested

theorem make_ignores_retold :
    (∃ run run' tape', make varied heroesOnly steadyTape = some (run, tape') ∧
      make retold heroesOnly steadyTape = some (run', tape') ∧ run.Alike run' ∧
      run.filteredOut = 1 ∧ run'.filteredOut = 2) ∧
    ∃ run run' tape', make varied heroesOnly steadyTape = some (run, tape') ∧
      make { retold with suggested := varied.suggested } heroesOnly steadyTape =
        some (run', tape') ∧ run.elements = run'.elements := by
  obtain ⟨found, last, hvaried, -, hfiltered, -⟩ := make_varied
  have hretold : (make retold heroesOnly steadyTape).map (·.1.filteredOut) = some 2 := by
    decide +kernel
  constructor
  · rcases make_ignores screened_varied_alike_retold steadyTape with
      ⟨hnone, -⟩ | ⟨run, run', tape', h, h', halike, -⟩
    · rw [hnone] at hvaried
      cases hvaried
    · rw [h'] at hretold
      obtain ⟨rfl, -⟩ := Prod.mk.inj (Option.some.inj (hvaried.symm.trans h))
      exact ⟨_, run', tape', h, h', halike, hfiltered, Option.some_inj.mp hretold⟩
  · have halike := screened_alike_withSuggested screened_varied_alike_retold varied.suggested
    rcases make_ignores halike steadyTape with
      ⟨hnone, -⟩ | ⟨run, run', tape', h, h', -, hsame⟩
    · rw [hnone] at hvaried
      cases hvaried
    · exact ⟨run, run', tape', h, h', hsame rfl⟩

end Run

end NewsFeed
