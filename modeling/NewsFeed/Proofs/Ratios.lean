/-
Only the ratios of the weights matter.

Multiplying the popularity of every signal by the same power of two multiplies the weight of every
article by it, and a draw by weight does not see a factor that all weights have in common.  So the
run stays the same, as long as no number that goes into a weight or a draw is out of range
(`Weighs`).

The run with other signals is followed next to the run it is compared with: as long as all draws by
weight that both make have the same outcome, the two are at the same place of the tape and have come
to the same state, and so the next draw is one that both make.

* `Signals.IsBoosted` — the same signals, with every popularity multiplied by `2^k`;
* `Article.weight_isScaled` — what this makes of the weights;
* `finish_withSignals` — runs whose draws by weight agree are the same;
* `make_keeps_ratios` — signals that are boosted make the same feed from the same words;
* `make_loses_ratios` — the same is not true when only rounded numbers are asked to be in range.
-/
import NewsFeed.Proofs.Cards
import NewsFeed.Proofs.Scaling

namespace NewsFeed

open Binary64

/-- The same signal, with its popularity multiplied by `2^k`. -/
structure Signal.IsBoosted (k : ℤ) (signal twin : Signal) : Prop where
  others : twin = { signal with popRecency := twin.popRecency }
  popRecency : IsScaled k signal.popRecency twin.popRecency

/-- The same signals, with every popularity multiplied by `2^k`. -/
def Signals.IsBoosted (k : ℤ) (signals twin : Signals) : Prop :=
  ∀ key, Option.Rel (Signal.IsBoosted k) (signals.get? key) (twin.get? key)

/-- The numbers that are multiplied with each other for the weight of an article. -/
def Signal.factors (signal : Signal) (settings : Settings) : List (Float × Float) :=
  let share := 1.0 - settings.sourceVisitsMin
  let visits := settings.sourceVisitsMin + signal.sourceVisits * share
  let source := subscriptionFactor signal.sourceSubscribed settings.sourceSubscribedMin
  let channel := subscriptionFactor signal.channelSubscribed settings.channelSubscribedMin
  [(signal.sourceVisits, share), (visits, signal.popRecency), (visits * signal.popRecency, source),
    (visits * signal.popRecency * source, channel)]

/-! ### Weights -/

variable {k : ℤ} {signals twin : Signals} {settings : Settings} {snapshot : Snapshot}

/-- Whether the products for the weights of some articles fit. -/
def Signals.ProductsMeet (fits : EReal → Prop) (signals : Signals) (settings : Settings)
    (articles : List Article) : Prop :=
  ∀ article ∈ articles, ∀ signal, signals.unblocked? article.url = some signal →
    ∀ pair ∈ signal.factors settings, fits (number pair.1 * number pair.2)

theorem Signal.IsBoosted.articleWeight {signal twin : Signal} (h : signal.IsBoosted k twin)
    (hrange : ∀ pair ∈ signal.factors settings, InRange (number pair.1 * number pair.2))
    (hrange' : ∀ pair ∈ twin.factors settings, InRange (number pair.1 * number pair.2)) :
    IsScaled k (signal.articleWeight settings) (twin.articleWeight settings) := by
  obtain ⟨hothers, hpop⟩ := h
  generalize twin.popRecency = pop at hothers hpop
  subst hothers
  simp only [Signal.factors, List.forall_mem_cons] at hrange hrange'
  obtain ⟨-, hvisits, hsource, hchannel, -⟩ := hrange
  obtain ⟨-, hvisits', hsource', hchannel', -⟩ := hrange'
  have hscaled := (((IsScaled.refl _).mul hpop hvisits hvisits').mul (.refl _) hsource hsource').mul
    (.refl _) hchannel hchannel'
  rw [zero_add, add_zero, add_zero] at hscaled
  exact hscaled

namespace Signals

/-- There are signals under the same keys. -/
theorem IsBoosted.get?_cases (h : signals.IsBoosted k twin) (key : String) :
    signals.get? key = none ∧ twin.get? key = none ∨
    ∃ signal signal', signals.get? key = some signal ∧ twin.get? key = some signal' ∧
      signal.IsBoosted k signal' := by
  have hkey := h key
  generalize signals.get? key = found at *
  generalize twin.get? key = found' at *
  cases hkey with
  | none => exact .inl ⟨rfl, rfl⟩
  | some hboosted => exact .inr ⟨_, _, rfl, rfl, hboosted⟩

/-- Boosted signals block alike. -/
theorem IsBoosted.unblocked?_cases (h : signals.IsBoosted k twin) (key : String) :
    signals.unblocked? key = none ∧ twin.unblocked? key = none ∨
    ∃ signal signal', signals.unblocked? key = some signal ∧
      twin.unblocked? key = some signal' ∧ signal.IsBoosted k signal' := by
  rw [unblocked?, unblocked?]
  rcases h.get?_cases key with ⟨hnone, hnone'⟩ | ⟨signal, signal', hsome, hsome', hboosted⟩
  · rw [hnone, hnone']
    exact .inl ⟨rfl, rfl⟩
  · have hblocked : signal'.blocked = signal.blocked := by rw [hboosted.others]
    rw [hsome, hsome']
    dsimp only
    rw [hblocked]
    split
    · exact .inl ⟨rfl, rfl⟩
    · exact .inr ⟨signal, signal', rfl, rfl, hboosted⟩

end Signals

/-- The weights of articles are multiplied like the popularities. -/
theorem Article.weight_isScaled (h : signals.IsBoosted k twin) {article : Article}
    (hrange : signals.ProductsMeet InRange settings [article])
    (hrange' : twin.ProductsMeet InRange settings [article]) :
    IsScaled k (article.weight signals settings) (article.weight twin settings) := by
  rw [weight, weight]
  rcases h.unblocked?_cases article.url with
    ⟨hnone, hnone'⟩ | ⟨signal, signal', hsome, hsome', hboosted⟩
  · rw [hnone, hnone']
    exact IsScaled.zero k
  · have hproducts := hrange article (List.mem_singleton_self article) signal hsome
    have hproducts' := hrange' article (List.mem_singleton_self article) signal' hsome'
    rw [hsome, hsome']
    exact hboosted.articleWeight hproducts hproducts'

theorem Article.isUnvisited_of_isBoosted (h : signals.IsBoosted k twin) (article : Article) :
    article.isUnvisited twin = article.isUnvisited signals := by
  rw [isUnvisited, isUnvisited]
  rcases h.get?_cases article.url with
    ⟨hnone, hnone'⟩ | ⟨signal, signal', hsome, hsome', hboosted⟩
  · rw [hnone, hnone']
  · have hvisits : signal'.sourceVisits = signal.sourceVisits := by rw [hboosted.others]
    rw [hsome, hsome']
    dsimp only
    rw [hvisits]

/-- The weights of channels have nothing to do with popularities. -/
theorem Channel.weight_of_isBoosted (h : signals.IsBoosted k twin) (channel : Channel) :
    channel.weight twin settings = channel.weight signals settings := by
  rw [weight, weight]
  rcases h.unblocked?_cases channel.name with
    ⟨hnone, hnone'⟩ | ⟨signal, signal', hsome, hsome', hboosted⟩
  · rw [hnone, hnone']
  · have hweight : signal'.channelWeight settings = signal.channelWeight settings := by
      rw [hboosted.others]
      rfl
    rw [hsome, hsome']
    exact hweight

/-- A weight is a product that was rounded, so a positive one is not small. -/
theorem Article.leastNormal_le_weight {article : Article}
    (hrange : signals.ProductsMeet InRange settings [article])
    (hpos : 0.0 < article.weight signals settings) :
    (leastNormal : EReal) ≤ number (article.weight signals settings) := by
  rw [weight] at hpos ⊢
  cases hsignal : signals.unblocked? article.url with
  | none =>
    rw [hsignal] at hpos
    exact absurd hpos not_zero_pos
  | some signal =>
    rw [hsignal] at hpos
    have hproducts := hrange article (List.mem_singleton_self article) signal hsignal
    simp only [Signal.factors, List.forall_mem_cons] at hproducts
    obtain ⟨-, -, -, hlast, -⟩ := hproducts
    have hpos' := (lt_iff.mp hpos).2.2
    rw [number_zero] at hpos'
    dsimp only at hpos' ⊢
    rw [Signal.articleWeight, number_mul] at hpos' ⊢
    exact hlast.sizeable.leastNormal_le_rounded hpos'

/-! ### Draws that agree -/

namespace Draw

variable {α β : Type} {tape : Tape}

/-- What follows a computation matters only for the result that it has on a tape. -/
theorem bind_congr_at {m m' : Draw α} {f f' : α → Draw β} (hm : m tape = m' tape)
    (hf : ∀ a mid, m' tape = some (a, mid) → f a mid = f' a mid) :
    (m >>= f) tape = (m' >>= f') tape := by
  show (m tape).bind _ = (m' tape).bind _
  rw [hm]
  cases h : m' tape with
  | none => rfl
  | some made => exact hf made.1 made.2 h

/-- If the first parts of two computations correspond on a tape, and what follows does, so do the
computations. -/
theorem bind_eq_map_at {γ δ : Type} {m : Draw α} {m' : Draw γ} {f : α → γ} {g : β → δ}
    {rest : α → Draw β} {rest' : γ → Draw δ} (hm : m' tape = (f <$> m) tape)
    (hrest : ∀ a mid, rest' (f a) mid = (g <$> rest a) mid) :
    (m' >>= rest') tape = (g <$> (m >>= rest)) tape := by
  calc (m' >>= rest') tape = ((f <$> m) >>= rest') tape := bind_congr_at hm fun _ _ _ => rfl
    _ = (m >>= fun a => rest' (f a)) tape := by rw [bind_map_left]
    _ = (m >>= fun a => g <$> rest a) tape := bind_congr_at rfl fun a mid _ => hrest a mid
    _ = (g <$> (m >>= rest)) tape := by rw [map_bind]

/-- A pick looks at the weights only for the winner. -/
theorem pick_congr_of_winner {items : List α} {weight weight' : α → Float}
    {lottery lottery' : Lottery} (hok : Lottery.ofWeights (items.map weight) = .ok lottery)
    (hok' : Lottery.ofWeights (items.map weight') = .ok lottery')
    (hwinner : lottery'.winner (tape.word tape.used) = lottery.winner (tape.word tape.used)) :
    pick items weight' tape = pick items weight tape := by
  refine bind_congr_at ?_ fun _ _ _ => rfl
  rw [pickIndex, pickIndex, hok, hok']
  show some (Except.ok (lottery'.winner (tape.word tape.used)), _) = some _
  rw [hwinner]

end Draw

namespace Block

variable {eligible : List Candidate} {tape : Tape}

theorem pickByWeight_of_error {cause : PickError}
    (h : Lottery.ofWeights (weights signals settings eligible) = .error cause) :
    pickByWeight signals settings eligible tape = some (none, tape) := by
  rcases pickByWeight_cases signals settings eligible tape with
    ⟨_, -, hnone⟩ | ⟨lottery, _, _, _, hok, -⟩
  · exact hnone
  · rw [h] at hok
    cases hok

/-- Whether a draw by weight has the same outcome with other signals. -/
def PicksAlike (signals twin : Signals) (settings : Settings) (eligible : List Candidate)
    (tape : Tape) : Prop :=
  pickByWeight twin settings eligible tape = pickByWeight signals settings eligible tape

section

variable (hunvisited : ∀ article : Article, article.isUnvisited twin = article.isUnvisited signals)
include hunvisited

theorem tryDiscovery_of_isUnvisited (eligible : List Candidate) :
    tryDiscovery twin settings eligible = tryDiscovery signals settings eligible := by
  have hdiscovery : pickDiscovery twin eligible = pickDiscovery signals eligible := by
    rw [pickDiscovery, pickDiscovery, List.filter_congr fun candidate _ => hunvisited _]
  rw [tryDiscovery, tryDiscovery, hdiscovery]

/-- A slot is filled alike if the draw by weight that it comes to is. -/
theorem pickInline_congr_at
    (h : ∀ mid, tryDiscovery signals settings eligible tape = some (none, mid) →
      PicksAlike signals twin settings eligible mid) :
    pickInline twin settings eligible tape = pickInline signals settings eligible tape := by
  rw [pickInline, pickInline, tryDiscovery_of_isUnvisited hunvisited]
  refine Draw.bind_congr_at rfl fun found mid htry => ?_
  cases found with
  | some found => rfl
  | none => exact Draw.bind_congr_at (h mid htry) fun _ _ _ => rfl

/-- Slots are filled alike if the draws by weight made for them with either signals are. -/
theorem fillSlots_congr_at {slots : ℕ}
    (h : ∀ drawn mid, SlotDraw signals settings slots eligible tape drawn mid →
      SlotDraw twin settings slots eligible tape drawn mid →
      PicksAlike signals twin settings drawn mid) :
    fillSlots twin settings slots eligible tape =
      fillSlots signals settings slots eligible tape := by
  induction slots generalizing eligible tape with
  | zero => rfl
  | succ slots ih =>
    rw [fillSlots, fillSlots]
    by_cases hempty : eligible.isEmpty = true
    · rw [if_pos hempty, if_pos hempty]
    rw [if_neg hempty, if_neg hempty]
    have hne : eligible ≠ [] := fun hnil => hempty (List.isEmpty_iff.mpr hnil)
    have hslot : pickInline twin settings eligible tape =
        pickInline signals settings eligible tape := by
      refine pickInline_congr_at hunvisited fun mid htry => h eligible mid (.here hne htry) ?_
      exact .here hne (by rw [tryDiscovery_of_isUnvisited hunvisited, htry])
    refine Draw.bind_congr_at hslot fun slot mid hfound => ?_
    cases slot with
    | none => rfl
    | some found =>
      obtain ⟨picked, isDiscover, others⟩ := found
      refine Draw.bind_congr_at (ih fun drawn mid' hdraw hdraw' => ?_) fun _ _ _ => rfl
      -- both go on from the same slot
      exact h drawn mid' (.later hne hfound hdraw) (.later hne (hslot.trans hfound) hdraw')

end

end Block

/-! ### The same snapshot with other signals -/

/-- The snapshot with other signals. -/
def Snapshot.withSignals (snapshot : Snapshot) (signals : Signals) : Snapshot :=
  { snapshot with signals }

/-- The run in the middle with other signals. -/
def Run.Progress.withSignals (progress : Progress) (signals : Signals) : Progress :=
  { progress with snapshot := progress.snapshot.withSignals signals }

variable {tape : Tape}
  (hunvisited : ∀ article : Article,
    article.isUnvisited twin = article.isUnvisited snapshot.signals)
  (hchannels : ∀ channel : Channel,
    channel.weight twin settings = channel.weight snapshot.signals settings)

section

include hunvisited

theorem Block.generate_withSignals {scope : Scope}
    (h : ∀ drawn mid, WeightDraw snapshot scope settings tape drawn mid →
      WeightDraw (snapshot.withSignals twin) scope settings tape drawn mid →
      PicksAlike snapshot.signals twin settings drawn mid) :
    generate (snapshot.withSignals twin) scope settings tape =
      (Prod.map id (·.withSignals twin) <$> generate snapshot scope settings) tape := by
  have hcandidates : candidates (snapshot.withSignals twin) scope = candidates snapshot scope := rfl
  rw [generate, generate, hcandidates]
  by_cases hempty : (candidates snapshot scope).isEmpty = true
  · rw [if_pos hempty, if_pos hempty]
    rfl
  rw [if_neg hempty, if_neg hempty, map_bind]
  have hne : candidates snapshot scope ≠ [] := fun hnil => hempty (List.isEmpty_iff.mpr hnil)
  refine Draw.bind_congr_at rfl fun count mid hcount => ?_
  -- the draws agree one by one, and each is known to come about on both sides
  have hhero := h _ mid (.hero hne hcount) (.hero hne hcount)
  rw [map_bind]
  refine Draw.bind_congr_at hhero fun drawn mid' hdrawn => ?_
  cases drawn with
  | none => rfl
  | some found =>
    obtain ⟨hero, others⟩ := found
    dsimp only
    rw [map_bind]
    refine Draw.bind_congr_at (fillSlots_congr_at hunvisited fun drawn last hdraw hdraw' => ?_)
      fun _ _ _ => rfl
    exact h drawn last (.inline hcount hdrawn hdraw)
      (.inline hcount (hhero.trans hdrawn) hdraw')

end

namespace Run

theorem card_withSignals (snapshot : Snapshot) (signals : Signals) (settings : Settings)
    (iteration : ℕ) : Card.generate (snapshot.withSignals signals) iteration settings =
      Prod.map id (·.withSignals signals) <$> Card.generate snapshot iteration settings := by
  rw [Card.generate, Card.generate]
  split
  · rfl
  rw [map_bind]
  refine bind_congr fun heads => ?_
  cases heads <;> rfl

section

include hunvisited hchannels

theorem generateRandom_withSignals
    (h : ∀ drawn mid, StepDraw settings snapshot tape .cluster drawn mid →
      StepDraw settings (snapshot.withSignals twin) tape .cluster drawn mid →
      Block.PicksAlike snapshot.signals twin settings drawn mid) :
    Cluster.generateRandom (snapshot.withSignals twin) settings tape =
      (Prod.map id (·.withSignals twin) <$> Cluster.generateRandom snapshot settings) tape := by
  rw [Cluster.generateRandom, Cluster.generateRandom, map_bind]
  -- channels weigh the same, so the same one is picked
  have hpick : Draw.pick (snapshot.withSignals twin).channels
      (fun channel => channel.weight (snapshot.withSignals twin).signals settings) =
        Draw.pick snapshot.channels fun channel => channel.weight snapshot.signals settings :=
    Draw.pick_congr fun channel _ => hchannels channel
  refine Draw.bind_congr_at (congrFun hpick tape) fun result mid hpicked => ?_
  cases result with
  | error cause => rfl
  | ok found =>
    obtain ⟨channel, others⟩ := found
    dsimp only
    refine Draw.bind_eq_map_at (Block.generate_withSignals hunvisited fun drawn last hdraw hdraw' =>
      h drawn last (.cluster hpicked hdraw)
        (.cluster ((congrFun hpick tape).trans hpicked) hdraw')) fun made last => ?_
    dsimp only [Prod.map, id]
    split <;> rfl

/-- A step does the same with other signals if the draws by weight that it makes do. -/
theorem perform_withSignals {step : Step} (iteration : ℕ)
    (h : ∀ drawn mid, StepDraw settings snapshot tape step drawn mid →
      StepDraw settings (snapshot.withSignals twin) tape step drawn mid →
      Block.PicksAlike snapshot.signals twin settings drawn mid) :
    perform step iteration (snapshot.withSignals twin) settings tape =
      (Prod.map id (·.withSignals twin) <$> perform step iteration snapshot settings) tape := by
  cases step
  case opening | default | topNews =>
    exact Draw.bind_eq_map_at (Block.generate_withSignals hunvisited fun drawn mid hdraw hdraw' =>
      h drawn mid (.block rfl hdraw) (.block rfl hdraw')) fun _ _ => rfl
  case cluster =>
    exact Draw.bind_eq_map_at (generateRandom_withSignals hunvisited hchannels h) fun _ _ => rfl
  case specialCard =>
    exact Draw.bind_eq_map_at (congrFun (card_withSignals snapshot twin settings iteration) tape)
      fun _ _ => rfl

end

namespace Progress

variable {progress : Progress} {mid : Tape}

/-- The rest of a run is the same with other signals if every draw by weight is that the two runs
both make.  The induction is on the iterations left; that the runs have come to the same state so
far makes the draws of the next step draws of both. -/
theorem finish_withSignals {iterations : ℕ}
    (hunvisited : ∀ article : Article,
      article.isUnvisited twin = article.isUnvisited snapshot.signals)
    (hchannels : ∀ channel : Channel,
      channel.weight twin settings = channel.weight snapshot.signals settings)
    (h : ∀ drawn mid, WeightDraw snapshot settings tape drawn mid →
      WeightDraw (snapshot.withSignals twin) settings tape drawn mid →
      Block.PicksAlike snapshot.signals twin settings drawn mid)
    (hreaches : Reaches settings (start snapshot settings) tape progress mid)
    (hreaches' : Reaches settings (start (snapshot.withSignals twin) settings) tape
      (progress.withSignals twin) mid)
    (hiterations : progress.run.iterations + iterations = settings.maxIterations.toNat) :
    finish settings iterations (progress.withSignals twin) mid =
      finish settings iterations progress mid := by
  induction iterations generalizing progress mid with
  | zero => rfl
  | succ iterations ih =>
    have hgoing : (progress.withSignals twin).isGoing = progress.isGoing := rfl
    rw [finish, finish, hgoing]
    by_cases hgo : progress.isGoing = true
    · rw [if_pos hgo, if_pos hgo]
      have hnot : ¬ progress.HasEnded settings := not_hasEnded_of_isGoing hgo (by omega)
      have hnot' : ¬ (progress.withSignals twin).HasEnded settings := hnot
      have hsignals : progress.snapshot.signals = snapshot.signals := hreaches.within.signals
      rw [← hsignals] at hunvisited hchannels
      -- the next step is the same on both sides
      have hadvance : (progress.withSignals twin).advance settings mid =
          ((·.withSignals twin) <$> progress.advance settings) mid := by
        refine Draw.bind_eq_map_at (perform_withSignals hunvisited hchannels _
          fun drawn mid' hdraw hdraw' => ?_) fun _ _ => rfl
        rw [hsignals]
        exact h drawn mid' ⟨hreaches, hnot, hdraw⟩ ⟨hreaches', hnot', hdraw'⟩
      -- and after it both are again side by side, one iteration later
      have hrest : ∀ next mid', progress.advance settings mid = some (next, mid') →
          finish settings iterations (next.withSignals twin) mid' =
            finish settings iterations next mid' := by
        intro next mid' hnext
        refine ih (hreaches.step hnot hnext)
          (hreaches'.step hnot' (hadvance.trans (Draw.map_eq_some hnext))) ?_
        obtain ⟨produced, left, -, rfl⟩ := advance_eq_some.mp hnext
        rw [record_iterations]
        omega
      calc ((progress.withSignals twin).advance settings >>= finish settings iterations) mid
          = (((·.withSignals twin) <$> progress.advance settings) >>=
              finish settings iterations) mid := Draw.bind_congr_at hadvance fun _ _ _ => rfl
        _ = (progress.advance settings >>= fun next =>
              finish settings iterations (next.withSignals twin)) mid := by rw [bind_map_left]
        _ = (progress.advance settings >>= finish settings iterations) mid :=
            Draw.bind_congr_at rfl hrest
    · rw [if_neg hgo, if_neg hgo]
      rfl

end Progress

/-! ### Runs -/

/-- What is asked of the numbers that the weighing of a run comes upon, the results each before it
is rounded: popularities, products, sums of weights and the points that are drawn. -/
structure Weighs (fits : EReal → Prop) (snapshot : Snapshot) (settings : Settings) (tape : Tape) :
    Prop where
  popRecency : ∀ signal ∈ snapshot.signals.values, fits (number signal.popRecency)
  products : snapshot.signals.ProductsMeet fits settings snapshot.articles
  draws : ∀ drawn mid, WeightDraw snapshot settings tape drawn mid →
    Lottery.Meets fits (Block.weights snapshot.signals settings drawn) (mid.word mid.used)

theorem WeightDraw.sublist_screened {drawn : List Candidate} {mid : Tape}
    (h : WeightDraw snapshot settings tape drawn mid) : drawn ≠ [] ∧
      (drawn.map Candidate.article).Sublist (screened snapshot settings).articles := by
  obtain ⟨hreaches, -, hdraw⟩ := h
  obtain ⟨hne, hsub⟩ := hdraw.sublist
  exact ⟨hne, hsub.trans hreaches.within.articles⟩

theorem WeightDraw.mem_screened {drawn : List Candidate} {mid : Tape}
    (h : WeightDraw snapshot settings tape drawn mid) :
    ∀ candidate ∈ drawn, candidate.article ∈ (screened snapshot settings).articles :=
  fun _ hmem => h.sublist_screened.2.subset (List.mem_map_of_mem hmem)

theorem Weighs.leastNormal_le (h : Weighs InRange snapshot settings tape)
    {drawn : List Candidate} {mid : Tape} (hdraw : WeightDraw snapshot settings tape drawn mid) :
    ∀ weight ∈ Block.weights snapshot.signals settings drawn,
      (leastNormal : EReal) ≤ number weight := by
  intro weight hmem
  obtain ⟨candidate, hcandidate, rfl⟩ := List.mem_map.mp hmem
  obtain ⟨harticle, hpos⟩ := List.mem_filter.mp (hdraw.mem_screened candidate hcandidate)
  refine Article.leastNormal_le_weight ?_ (decide_eq_true_eq.mp hpos)
  exact List.forall_mem_singleton.mpr (h.products _ harticle)

section

variable (h : snapshot.signals.IsBoosted k twin) (hrange : Weighs InRange snapshot settings tape)
  (hrange' : Weighs InRange (snapshot.withSignals twin) settings tape)
include h hrange hrange'

theorem weight_isScaled {article : Article} (hmem : article ∈ snapshot.articles) :
    IsScaled k (article.weight snapshot.signals settings) (article.weight twin settings) :=
  Article.weight_isScaled h (List.forall_mem_singleton.mpr (hrange.products article hmem))
    (List.forall_mem_singleton.mpr (hrange'.products article hmem))

/-- The same articles have weight. -/
theorem screened_withSignals : screened (snapshot.withSignals twin) settings =
    (screened snapshot settings).withSignals twin := by
  have hfilter : ∀ article ∈ snapshot.articles,
      decide (0.0 < article.weight twin settings) =
        decide (0.0 < article.weight snapshot.signals settings) := fun article hmem =>
    decide_eq_decide.mpr ((IsScaled.zero k).lt_iff (weight_isScaled h hrange hrange' hmem))
  exact congrArg (fun articles => { snapshot.withSignals twin with articles })
    (List.filter_congr hfilter)

/-- A draw by weight that both runs make has the same outcome in both. -/
theorem picksAlike_of_isBoosted {drawn : List Candidate} {mid : Tape}
    (hdraw : WeightDraw snapshot settings tape drawn mid)
    (hdraw' : WeightDraw (snapshot.withSignals twin) settings tape drawn mid) :
    Block.PicksAlike snapshot.signals twin settings drawn mid := by
  have hscaled : List.Forall₂ (IsScaled k) (Block.weights snapshot.signals settings drawn)
      (Block.weights twin settings drawn) := by
    rw [Block.weights, Block.weights, List.forall₂_map_left_iff, List.forall₂_map_right_iff,
      List.forall₂_same]
    intro candidate hmem
    have hscreened := List.mem_filter.mp (hdraw.mem_screened candidate hmem)
    exact weight_isScaled h hrange hrange' hscreened.1
  rcases Lottery.winner_of_isScaled hscaled (hrange.leastNormal_le hdraw)
      (hrange'.leastNormal_le hdraw')
      (hrange.draws drawn mid hdraw) (hrange'.draws drawn mid hdraw')
    with ⟨cause, cause', hbad, hbad'⟩ | ⟨lottery, lottery', hok, hok', hwinner⟩
  · rw [Block.PicksAlike, Block.pickByWeight_of_error hbad, Block.pickByWeight_of_error hbad']
  · exact Draw.bind_congr_at (Draw.pick_congr_of_winner hok hok' hwinner) fun _ _ _ => rfl

/-- Multiplying the popularity of every signal by the same power of two changes neither the run nor
the words that it reads, if no number that the weighing comes upon is out of range, before it is
rounded, with either signals. -/
theorem make_keeps_ratios :
    make { snapshot with signals := twin } settings tape = make snapshot settings tape := by
  have hstart : Progress.start (snapshot.withSignals twin) settings =
      (Progress.start snapshot settings).withSignals twin := by
    rw [Progress.start, screened_withSignals h hrange hrange']
    rfl
  show make (snapshot.withSignals twin) settings tape = _
  rw [make, make, hstart]
  refine Progress.finish_withSignals (Article.isUnvisited_of_isBoosted h)
    (Channel.weight_of_isBoosted h) (fun drawn mid => picksAlike_of_isBoosted h hrange hrange')
    .start ?_ (Nat.zero_add _)
  rw [hstart]
  exact .start

end

/-- Articles whose weights are not small and do not overflow when they are added are weighed in
range, whatever is drawn. -/
theorem Weighs.of_large
    (hpop : ∀ signal ∈ snapshot.signals.values,
      (signal.popRecency == 0.0) = true ∨ leastNormalFloat ≤ signal.popRecency)
    (hproducts : ∀ article ∈ snapshot.articles,
      ∀ signal ∈ snapshot.signals.unblocked? article.url, ∀ pair ∈ signal.factors settings,
        ((pair.1 == 0.0) = true ∨ leastNormalFloat < pair.1 * pair.2) ∧
          (pair.1 * pair.2).isFinite = true)
    (hlarge : ∀ article ∈ (screened snapshot settings).articles,
      leastPointed ≤ article.weight snapshot.signals settings)
    (hfinite : (Lottery.sum ((screened snapshot settings).articles.map fun article =>
      article.weight snapshot.signals settings)).isFinite = true) (tape : Tape) :
    Weighs InRange snapshot settings tape := by
  refine ⟨fun signal hmem => inRange_number (hpop signal hmem),
    fun article harticle signal hsignal pair hpair => ?_, fun drawn mid hdraw => ?_⟩
  · obtain ⟨hsizeable, hfits⟩ := hproducts article harticle signal hsignal pair hpair
    exact inRange_mul hsizeable hfits
  -- the weights of a draw are some of the weights of the screened pool
  have hsub := hdraw.sublist_screened.2.map fun article => article.weight snapshot.signals settings
  rw [← Block.weights_eq] at hsub
  have hall : ∀ weight ∈ Block.weights snapshot.signals settings drawn, leastPointed ≤ weight := by
    intro weight hmem
    obtain ⟨article, harticle, rfl⟩ := List.mem_map.mp (hsub.subset hmem)
    exact hlarge article harticle
  refine Lottery.meets_of_large hall (Lottery.sum_isFinite_of_sublist hsub ?_ hfinite) _
  intro weight hmem
  obtain ⟨article, harticle, rfl⟩ := List.mem_map.mp hmem
  exact Binary64.le_trans leastPointed_nonneg (hlarge article harticle)

theorem Weighs.imp {fits fits' : EReal → Prop} (h : Weighs fits snapshot settings tape)
    (himp : ∀ x, fits x → fits' x) : Weighs fits' snapshot settings tape where
  popRecency signal hmem := himp _ (h.popRecency signal hmem)
  products article harticle signal hsignal pair hpair :=
    himp _ (h.products article harticle signal hsignal pair hpair)
  draws drawn mid hdraw :=
    have hmeets := h.draws drawn mid hdraw
    ⟨fun pair hpair => himp _ (hmeets.sums pair hpair),
      fun lottery hok => himp _ (hmeets.point lottery hok)⟩

end Run

namespace Signals

theorem isBoosted_empty (k : ℤ) : IsBoosted k ∅ ∅ :=
  fun _ => .none

theorem IsBoosted.insert (h : signals.IsBoosted k twin) {signal signal' : Signal}
    (hsignal : signal.IsBoosted k signal') (key : String) :
    IsBoosted k (Dict.insert signals key signal) (Dict.insert twin key signal') := by
  intro key'
  rw [Dict.get?_insert, Dict.get?_insert]
  split
  · exact .some hsignal
  · exact h key'

end Signals

namespace Run

/-- A snapshot of two articles, the second a little less popular. -/
def unevenPair : Snapshot where
  articles := [⟨"a", "p", "a", 0.0, none⟩, ⟨"b", "p", "b", 0.0, none⟩]
  signals := Dict.ofList [("a", { followed with popRecency := .ofBits 0x3ff0000000000000 }),
    ("b", { followed with popRecency := .ofBits 0x3fefffffffffffff })]

/-- The signals of `unevenPair`, with every popularity multiplied by `2^10`. -/
def unevenSignals : Signals :=
  Dict.ofList [("a", { followed with popRecency := .ofBits 0x4090000000000000 }),
    ("b", { followed with popRecency := .ofBits 0x408fffffffffffff })]

theorem unevenPair_isBoosted : unevenPair.signals.IsBoosted 10 unevenSignals :=
  ((Signals.isBoosted_empty 10).insert ⟨rfl, isScaled_ofBits 0x3ff0000000000000 0x4090000000000000
      (by decide) (by decide) (by decide)⟩ "a").insert
    ⟨rfl, isScaled_ofBits 0x3fefffffffffffff 0x408fffffffffffff (by decide) (by decide)
      (by decide)⟩ "b"

theorem make_keeps_ratios_unevenPair :
    ∃ run tape', make unevenPair heroesOnly steadyTape = some (run, tape') ∧
      make { unevenPair with signals := unevenSignals } heroesOnly steadyTape =
        some (run, tape') ∧ run.consumed = 2 := by
  have hmake : (make unevenPair heroesOnly steadyTape).map (·.1.consumed) = some 2 := by
    decide +kernel
  obtain ⟨⟨run, tape'⟩, h, hconsumed⟩ := Option.map_eq_some_iff.mp hmake
  have hrange : Weighs InRange unevenPair heroesOnly steadyTape :=
    .of_large (by decide +kernel) (by decide +kernel) (by decide +kernel) (by decide +kernel) _
  have hrange' : Weighs InRange (unevenPair.withSignals unevenSignals) heroesOnly steadyTape :=
    .of_large (by decide +kernel) (by decide +kernel) (by decide +kernel) (by decide +kernel) _
  have hsame := make_keeps_ratios unevenPair_isBoosted hrange hrange'
  exact ⟨run, tape', h, hsame.trans h, hconsumed⟩

/-! ### Numbers that are rounded into range -/

/-- A snapshot of one article. Its popularity multiplied by a factor as small is rounded to 0. -/
def faint : Snapshot where
  articles := [⟨"a", "p", "a", 0.0, none⟩]
  signals := Dict.ofList
    [("a", { followed with sourceVisits := 0.0, popRecency := .ofBits 0x1a70000000000000 })]

/-- The signals of `faint`, with every popularity multiplied by `2^500`. -/
def clearSignals : Signals :=
  Dict.ofList
    [("a", { followed with sourceVisits := 0.0, popRecency := .ofBits 0x39b0000000000000 })]

/-- Settings under which an article counts next to nothing without a visit to its publisher. -/
def minute : Settings where
  sourceVisitsMin := .ofBits 0x1a70000000000000

/-- It is not enough that the numbers of both runs are in range as rounded: where a product is
rounded to 0 the article is left out, and with popularities multiplied by `2^500` it is shown. -/
theorem make_loses_ratios :
    faint.signals.IsBoosted 500 clearSignals ∧
    Weighs RoundsInRange faint minute steadyTape ∧
    Weighs RoundsInRange { faint with signals := clearSignals } minute steadyTape ∧
    make { faint with signals := clearSignals } minute steadyTape ≠
      make faint minute steadyTape := by
  refine ⟨?_, ?_, ?_, fun hsame => ?_⟩
  · exact (Signals.isBoosted_empty 500).insert ⟨rfl, isScaled_ofBits 0x1a70000000000000
      0x39b0000000000000 (by decide) (by decide) (by decide)⟩ "a"
  · have hpop : ∀ signal ∈ faint.signals.values, (signal.popRecency == 0.0) = true ∨
        leastNormalFloat ≤ signal.popRecency := by decide +kernel
    have hproducts : ∀ article ∈ faint.articles,
        ∀ signal ∈ faint.signals.unblocked? article.url, ∀ pair ∈ signal.factors minute,
          ((pair.1 * pair.2 == 0.0) = true ∨ leastNormalFloat ≤ pair.1 * pair.2) ∧
            (pair.1 * pair.2).isFinite = true := by decide +kernel
    have hscreened : (screened faint minute).articles = [] := by decide +kernel
    refine ⟨fun signal hmem => (inRange_number (hpop signal hmem)).roundsInRange,
      fun article harticle signal hsignal pair hpair => ?_, fun drawn mid hdraw => ?_⟩
    · obtain ⟨hsizeable, hfits⟩ := hproducts article harticle signal hsignal pair hpair
      exact roundsInRange_mul hsizeable hfits
    · -- nothing is left to draw from
      obtain ⟨hne, hsub⟩ := hdraw.sublist_screened
      rw [hscreened, List.sublist_nil, List.map_eq_nil_iff] at hsub
      exact absurd hsub hne
  · have hrange : Weighs InRange (faint.withSignals clearSignals) minute steadyTape :=
      .of_large (by decide +kernel) (by decide +kernel) (by decide +kernel) (by decide +kernel) _
    exact hrange.imp fun _ => InRange.roundsInRange
  · have hfaint : (make faint minute steadyTape).map (·.1.filteredOut) = some 1 := by
      decide +kernel
    have hclear : (make { faint with signals := clearSignals } minute steadyTape).map
        (·.1.filteredOut) = some 0 := by
      decide +kernel
    rw [hsame, hfaint] at hclear
    cases hclear

end Run

end NewsFeed
