/-
What scores are for.

The score of an article is looked at in one place only, the draw of a discovery, and that draw is
made only if a coin asks for it.  Where the coin never does, scores are inert: taking the scores out
of a snapshot and making a feed is the same as making the feed and taking the scores out of it.

Every part of a run is compared with itself after `unscored`, as one equation between computations,
so that it is said at once that the same words are read and that the results correspond.

* `pick_map` — a draw among images is the image of a draw;
* `perform_unscored` — one step without scores;
* `make_unscored` — a whole run without scores;
* `make_ignores_scores` — two runs whose snapshots differ in scores only.
-/
import NewsFeed.Proofs.Cards

namespace NewsFeed

/-! ### Taking scores out -/

/-- The article without its score. -/
def Article.unscored (article : Article) : Article :=
  { article with score := 0.0 }

def Candidate.unscored (candidate : Candidate) : Candidate :=
  { candidate with article := candidate.article.unscored }

def ArticleElement.unscored : ArticleElement → ArticleElement
  | .hero article => .hero article.unscored
  | .inline article isDiscover => .inline article.unscored isDiscover

/-- The part of a feed without the scores of its articles, those inside a cluster included. -/
def Element.unscored : Element → Element
  | .hero article => .hero article.unscored
  | .inline article isDiscover => .inline article.unscored isDiscover
  | .cluster kind elements => .cluster kind (elements.map ArticleElement.unscored)
  | .advert => .advert
  | .discover publishers => .discover publishers

/-- The snapshot without the scores of its articles. -/
def Snapshot.unscored (snapshot : Snapshot) : Snapshot :=
  { snapshot with articles := snapshot.articles.map Article.unscored }

/-- The run without the scores of its articles. -/
def Run.unscored (run : Run) : Run :=
  { run with elements := run.elements.map Element.unscored }

def Run.Progress.unscored (progress : Progress) : Progress :=
  { progress with snapshot := progress.snapshot.unscored, run := progress.run.unscored }

/-- Whether the coin for discoveries always falls the same way and asks for none. -/
def Settings.NeverDiscovers (settings : Settings) : Prop :=
  settings.inlineDiscoveryRatio.isNaN = true ∨ settings.inlineDiscoveryRatio ≤ 0.0

theorem Element.ofArticleElement_unscored (element : ArticleElement) :
    ofArticleElement element.unscored = (ofArticleElement element).unscored := by
  cases element <;> rfl

namespace Candidate

theorem ofPool_unscored (pool : List Article) :
    ofPool (pool.map Article.unscored) = (ofPool pool).map unscored := by
  rw [ofPool, ofPool, List.zipIdx_map, List.map_map, List.map_map]
  rfl

theorem left_unscored (pool : List Article) (taken : List ℕ) :
    left (pool.map Article.unscored) taken = (left pool taken).map Article.unscored := by
  rw [left_eq, left_eq, ofPool_unscored, List.filter_map, List.map_map, List.map_map]
  rfl

end Candidate

/-! ### Draws -/

/-- A draw among images is the image of a draw. -/
theorem Draw.pick_map {α β : Type} (f : α → β) (items : List α) (weight : β → Float) :
    pick (items.map f) weight =
      Except.map (Prod.map f (List.map f)) <$> pick items (fun item => weight (f item)) := by
  have hweights : (items.map f).map weight = items.map fun item => weight (f item) := List.map_map
  rw [pick, pick, hweights, map_bind]
  refine bind_congr fun drawn => ?_
  cases drawn with
  | error cause => rfl
  | ok index =>
    dsimp only
    rw [List.getElem?_map]
    cases items[index]? with
    | none => rfl
    | some item =>
      rw [List.eraseIdx_map]
      rfl

/-- Computations with the same image go side by side. -/
theorem Draw.SideBySide.of_map_eq {α β : Type} {f : α → β} {m m' : Draw α}
    (h : f <$> m = f <$> m') : SideBySide (fun a b => f a = f b) m m' := by
  intro tape
  have hboth : (m tape).bind (fun made => some (f made.1, made.2)) =
      (m' tape).bind fun made => some (f made.1, made.2) := congrFun h tape
  -- the tape that is left is a part of what the images have in common
  cases hm : m tape with
  | none =>
    rw [hm, Option.bind_none, eq_comm, Option.bind_eq_none_iff] at hboth
    refine .inl ⟨rfl, Option.eq_none_iff_forall_ne_some.mpr fun made hmade => ?_⟩
    exact Option.some_ne_none _ (hboth made hmade)
  | some made =>
    cases hm' : m' tape with
    | none =>
      rw [hm, hm'] at hboth
      cases hboth
    | some made' =>
      rw [hm, hm'] at hboth
      obtain ⟨hvalue, htape⟩ := Prod.mk.inj (Option.some_inj.mp hboth)
      exact .inr ⟨made.1, made'.1, made.2, rfl, by rw [htape], hvalue⟩

namespace Block

variable {settings : Settings} {signals : Signals} {eligible : List Candidate} {tape tape' : Tape}

theorem pickByWeight_unscored (signals : Signals) (settings : Settings)
    (eligible : List Candidate) :
    pickByWeight signals settings (eligible.map Candidate.unscored) =
      Option.map (Prod.map Candidate.unscored (List.map Candidate.unscored)) <$>
        pickByWeight signals settings eligible := by
  rw [pickByWeight, pickByWeight, Draw.pick_map, bind_map_left, map_bind]
  refine bind_congr fun drawn => ?_
  cases drawn <;> rfl

section

variable (hoff : settings.NeverDiscovers)
include hoff

/-- Without discoveries a slot is filled by weight. -/
theorem pickInline_of_neverDiscovers (signals : Signals) (eligible : List Candidate) :
    pickInline signals settings eligible =
      Option.map (fun drawn => (drawn.1, false, drawn.2)) <$>
        pickByWeight signals settings eligible := by
  -- such a coin is not even tossed, so that no word is read for it
  have hcoin : Draw.coin settings.inlineDiscoveryRatio = pure false := by
    exact if_pos hoff
  have htry : tryDiscovery signals settings eligible = pure none := by
    rw [tryDiscovery, hcoin, pure_bind]
    rfl
  rw [pickInline, htry, pure_bind, map_eq_pure_bind]
  refine bind_congr fun drawn => ?_
  cases drawn <;> rfl

theorem pickInline_unscored (signals : Signals) (eligible : List Candidate) :
    pickInline signals settings (eligible.map Candidate.unscored) =
      Option.map (Prod.map Candidate.unscored (Prod.map id (List.map Candidate.unscored))) <$>
        pickInline signals settings eligible := by
  -- with discoveries this is false: a pick of a discovery weighs candidates by their scores
  rw [pickInline_of_neverDiscovers hoff, pickInline_of_neverDiscovers hoff, pickByWeight_unscored,
    Functor.map_map, Functor.map_map]
  congr 1
  funext drawn
  cases drawn <;> rfl

theorem fillSlots_unscored (signals : Signals) (slots : ℕ) (eligible : List Candidate) :
    fillSlots signals settings slots (eligible.map Candidate.unscored) =
      List.map (Prod.map Candidate.unscored id) <$> fillSlots signals settings slots eligible := by
  induction slots generalizing eligible with
  | zero => rfl
  | succ slots ih =>
    rw [fillSlots, fillSlots, List.isEmpty_map]
    split
    · rfl
    rw [pickInline_unscored hoff, bind_map_left, map_bind]
    refine bind_congr fun slot => ?_
    cases slot with
    | none => rfl
    | some found =>
      obtain ⟨picked, isDiscover, others⟩ := found
      dsimp only [Option.map, Prod.map, id]
      rw [ih, bind_map_left, map_bind]
      rfl

/-- None of the candidates that fill slots is a discovery. -/
theorem isDiscover_of_fillSlots {slots : ℕ} {inlines : List (Candidate × Bool)}
    (h : fillSlots signals settings slots eligible tape = some (inlines, tape')) :
    ∀ slot ∈ inlines, slot.2 = false := by
  induction slots generalizing eligible inlines tape with
  | zero =>
    cases h
    exact fun _ hmem => nomatch hmem
  | succ slots ih =>
    rw [fillSlots] at h
    split at h
    · cases h
      exact fun _ hmem => nomatch hmem
    rw [pickInline_of_neverDiscovers hoff, bind_map_left] at h
    obtain ⟨drawn, mid, -, hrest⟩ := Draw.bind_eq_some.mp h
    cases drawn with
    | none =>
      cases hrest
      exact fun _ hmem => nomatch hmem
    | some found =>
      obtain ⟨rest, mid', hfill, hresult⟩ := Draw.bind_eq_some.mp hrest
      cases hresult
      exact List.forall_mem_cons.mpr ⟨rfl, ih hfill⟩

end

/-! ### Blocks -/

theorem candidates_unscored (snapshot : Snapshot) (scope : Scope) :
    candidates snapshot.unscored scope = (candidates snapshot scope).map Candidate.unscored := by
  rw [candidates, Snapshot.unscored, Candidate.ofPool_unscored, List.filter_map]
  rfl

theorem assemble_unscored (snapshot : Snapshot) (hero : Candidate)
    (inlines : List (Candidate × Bool)) :
    assemble snapshot.unscored hero.unscored (inlines.map (Prod.map Candidate.unscored id)) =
      Prod.map (List.map ArticleElement.unscored) Snapshot.unscored
        (assemble snapshot hero inlines) := by
  simp only [assemble, List.map_map, Prod.map, List.map_cons, Snapshot.unscored,
    Candidate.left_unscored]
  rfl

section

variable (hoff : settings.NeverDiscovers)
include hoff

theorem generate_unscored (snapshot : Snapshot) (scope : Scope) :
    generate snapshot.unscored scope settings =
      Prod.map (List.map ArticleElement.unscored) Snapshot.unscored <$>
        generate snapshot scope settings := by
  rw [generate, generate, candidates_unscored, List.isEmpty_map]
  split
  · rfl
  rw [map_bind]
  refine bind_congr fun count => ?_
  have hsignals : snapshot.unscored.signals = snapshot.signals := rfl
  rw [hsignals, pickByWeight_unscored, bind_map_left, map_bind]
  refine bind_congr fun drawn => ?_
  cases drawn with
  | none => rfl
  | some found =>
    obtain ⟨hero, others⟩ := found
    dsimp only [Option.map, Prod.map]
    rw [fillSlots_unscored hoff, bind_map_left, map_bind]
    refine bind_congr fun inlines => ?_
    rw [assemble_unscored]
    rfl

theorem inline_of_generate {snapshot snapshot' : Snapshot} {scope : Scope}
    {elements : List ArticleElement}
    (h : generate snapshot scope settings tape = some ((elements, snapshot'), tape'))
    (article : Article) : .inline article true ∉ elements := by
  rcases generate_cases h with
    ⟨rfl, -⟩ | ⟨-, hero, others, inlines, slots, mid, -, -, hfill, rfl, -⟩
  · exact List.not_mem_nil
  · intro hmem
    -- a discovered article could only come from a slot
    obtain ⟨slot, hslot, hinline⟩ := List.mem_map.mp ((List.mem_cons.mp hmem).resolve_left nofun)
    have hfalse := isDiscover_of_fillSlots hoff hfill slot hslot
    obtain ⟨-, htrue⟩ := ArticleElement.inline.inj hinline
    rw [hfalse] at htrue
    cases htrue

end

end Block

/-! ### Steps -/

variable {settings : Settings} {snapshot snapshot' twin : Snapshot} {step : Step}
  {produced : List Element} {tape tape' : Tape} (hoff : settings.NeverDiscovers)

section

include hoff

theorem Cluster.generate_unscored (snapshot : Snapshot) (channel : String) :
    generate snapshot.unscored channel settings =
      Prod.map (Option.map Element.unscored) Snapshot.unscored <$>
        generate snapshot channel settings := by
  rw [generate, generate, Block.generate_unscored hoff, bind_map_left, map_bind]
  refine bind_congr fun made => ?_
  dsimp only [Prod.map]
  rw [List.isEmpty_map]
  split <;> rfl

theorem Cluster.generateRandom_unscored (snapshot : Snapshot) :
    generateRandom snapshot.unscored settings =
      Prod.map (Option.map Element.unscored) Snapshot.unscored <$>
        generateRandom snapshot settings := by
  rw [generateRandom, generateRandom, map_bind]
  refine bind_congr fun picked => ?_
  cases picked with
  | error cause => rfl
  | ok found => exact generate_unscored hoff snapshot found.1.name

end

theorem Card.generate_unscored (snapshot : Snapshot) (iteration : ℕ) (settings : Settings) :
    generate snapshot.unscored iteration settings =
      Prod.map (Option.map Element.unscored) Snapshot.unscored <$>
        generate snapshot iteration settings := by
  rw [generate, generate]
  split
  · rfl
  rw [map_bind]
  refine bind_congr fun heads => ?_
  cases heads <;> rfl

namespace Run

include hoff

/-- A step on a snapshot without scores makes the elements without scores. -/
theorem perform_unscored (step : Step) (iteration : ℕ) (snapshot : Snapshot) :
    perform step iteration snapshot.unscored settings =
      Prod.map (List.map Element.unscored) Snapshot.unscored <$>
        perform step iteration snapshot settings := by
  cases step
  case opening | default | topNews =>
    rw [perform, perform, Block.generate_unscored hoff, bind_map_left, map_bind]
    refine bind_congr fun made => congrArg pure (Prod.ext ?_ rfl)
    dsimp only [Prod.map]
    rw [List.map_map, List.map_map]
    exact List.map_congr_left fun element _ => Element.ofArticleElement_unscored element
  case cluster =>
    rw [perform, perform, Cluster.generateRandom_unscored hoff, bind_map_left, map_bind]
    exact bind_congr fun made => congrArg pure (Prod.ext (Option.toList_map ..) rfl)
  case specialCard =>
    rw [perform, perform, Card.generate_unscored, bind_map_left, map_bind]
    exact bind_congr fun made => congrArg pure (Prod.ext (Option.toList_map ..) rfl)

omit hoff in
theorem inline_of_map {elements : List ArticleElement} {article : Article}
    (h : .inline article true ∉ elements) :
    ∀ element ∈ elements.map Element.ofArticleElement,
      .inline article true ∉ element.blockElements := by
  intro element hmem hinline
  obtain ⟨shown, hshown, rfl⟩ := List.mem_map.mp hmem
  rw [blockElements_ofArticleElement, List.mem_singleton] at hinline
  exact h (hinline ▸ hshown)

/-- No step makes a discovery. -/
theorem inline_of_perform {iteration : ℕ}
    (h : perform step iteration snapshot settings tape = some ((produced, snapshot'), tape'))
    (article : Article) : ∀ element ∈ produced, .inline article true ∉ element.blockElements := by
  rcases perform_cases h with ⟨scope, elements, -, rfl, hblock⟩ |
    ⟨rfl, element, rfl, hcluster⟩ | ⟨rfl, element, rfl, hcard⟩
  · exact inline_of_map (Block.inline_of_generate hoff hblock article)
  · rcases randomCluster_cases hcluster with
      ⟨rfl, -⟩ | ⟨channel, -, -, elements, mid, rfl, -, hblock⟩
    · exact fun _ hmem => nomatch hmem
    · intro element hmem
      obtain rfl := List.mem_singleton.mp hmem
      exact Block.inline_of_generate hoff hblock article
  · -- neither an advert nor a discover card holds an article
    rcases card_cases hcard with ⟨-, rfl, -⟩ | ⟨-, rfl, -⟩ | ⟨-, rfl, -⟩
    · exact fun _ hmem => nomatch hmem
    all_goals
      intro element hmem
      obtain rfl := List.mem_singleton.mp hmem
      exact List.not_mem_nil

namespace Progress

omit hoff in
theorem record_unscored (progress : Progress) (produced : List Element) (snapshot' : Snapshot) :
    (progress.record produced snapshot').unscored =
      progress.unscored.record (produced.map Element.unscored) snapshot'.unscored := by
  simp [unscored, record, trace, Run.unscored, Snapshot.unscored]

theorem advance_unscored (progress : Progress) :
    progress.unscored.advance settings = unscored <$> progress.advance settings := by
  rw [advance, advance, map_bind]
  show perform progress.step progress.run.iterations progress.snapshot.unscored settings >>= _ = _
  rw [perform_unscored hoff, bind_map_left]
  exact bind_congr fun made => congrArg pure (record_unscored progress made.1 made.2).symm

theorem finish_unscored (iterations : ℕ) (progress : Progress) :
    finish settings iterations progress.unscored =
      Run.unscored <$> finish settings iterations progress := by
  have hclose : ∀ progress : Progress, progress.unscored.close = progress.close.unscored := by
    intro progress
    simp [unscored, close, Run.unscored, Snapshot.unscored]
  induction iterations generalizing progress with
  | zero =>
    rw [finish, finish, hclose]
    rfl
  | succ iterations ih =>
    -- a pool without its scores is empty when the pool is
    have hgoing : progress.unscored.isGoing = progress.isGoing := by
      rw [isGoing, isGoing]
      show (!(progress.snapshot.articles.map Article.unscored).isEmpty && _) = _
      rw [List.isEmpty_map]
      rfl
    rw [finish, finish, hgoing, hclose]
    split
    · rw [advance_unscored hoff, bind_map_left, map_bind]
      exact bind_congr ih
    · rfl

omit hoff in
theorem start_unscored (snapshot : Snapshot) (settings : Settings) :
    start snapshot.unscored settings = (start snapshot settings).unscored := by
  have hscreened : screened snapshot.unscored settings = (screened snapshot settings).unscored := by
    simp only [screened, Snapshot.unscored, List.filter_map]
    rfl
  rw [start, hscreened]
  simp [start, unscored, Run.unscored, Snapshot.unscored]

end Progress

/-- A feed made from a snapshot without scores is the feed without scores. -/
theorem make_unscored (snapshot : Snapshot) :
    make snapshot.unscored settings = Run.unscored <$> make snapshot settings := by
  rw [make, make, Progress.start_unscored, Progress.finish_unscored hoff]

/-- No state of a run holds a discovery. -/
theorem Progress.Reaches.inline {start last : Progress} (h : Reaches settings start tape last tape')
    (hstart : start.run.elements = []) (article : Article) :
    ∀ element ∈ last.run.elements, .inline article true ∉ element.blockElements := by
  refine h.induct_perform (P := fun progress => ∀ element ∈ progress.run.elements,
    .inline article true ∉ element.blockElements) ?_ ?_
  · rw [hstart]
    exact fun _ hmem => nomatch hmem
  · rintro progress produced snapshot' mid mid' - ih - hperform element hmem
    rcases List.mem_append.mp hmem with hold | hnew
    · exact ih element hold
    · exact inline_of_perform hoff hperform article element hnew

/-- Where no coin asks for a discovery, snapshots that differ only in the scores of their articles
give runs that read the same words and differ only in the scores that their articles carry, and no
inline article of a feed, in a cluster or not, is a discovery. -/
theorem make_ignores_scores (hsame : snapshot.unscored = twin.unscored) :
    Draw.SideBySide (fun run run' => run.unscored = run'.unscored)
      (make snapshot settings) (make twin settings) ∧
    ∀ tape run tape', make snapshot settings tape = some (run, tape') →
      ∀ element ∈ run.elements, ∀ article, .inline article true ∉ element.blockElements := by
  refine ⟨Draw.SideBySide.of_map_eq ?_, fun tape run tape' h element hmem article => ?_⟩
  · rw [← make_unscored hoff, ← make_unscored hoff, hsame]
  · obtain ⟨last, hreaches, -, rfl⟩ := make_reaches h
    exact hreaches.inline hoff rfl article element hmem

/-- The snapshot `varied` with other scores. -/
def scored : Snapshot where
  publishers := varied.publishers
  articles := [⟨"a", "p", "a", -1.0, none⟩, ⟨"b", "p", "b", 7.0, none⟩, ⟨"c", "q", "c", 0.0, none⟩,
    ⟨"d", "q", "d", 0.5, none⟩, ⟨"e", "q", "e", 3.0, none⟩, ⟨"f", "q", "f", 1.0, none⟩]
  signals := varied.signals
  channels := varied.channels

/-- Settings without discoveries. -/
def undiscovering : Settings where
  inlineDiscoveryRatio := 0.0

omit hoff in
theorem make_ignores_scores_scored :
    ∃ run run' tape', make varied undiscovering steadyTape = some (run, tape') ∧
      make scored undiscovering steadyTape = some (run', tape') ∧
      run.unscored = run'.unscored ∧ run ≠ run' ∧
      ∀ element ∈ run.elements, ∀ article, .inline article true ∉ element.blockElements := by
  have hsame : varied.unscored = scored.unscored := by
    simp only [Snapshot.unscored, Snapshot.mk.injEq]
    exact ⟨rfl, rfl, rfl, rfl, rfl⟩
  have hscored : (make scored undiscovering steadyTape).map (·.1.elements) ≠
      (make varied undiscovering steadyTape).map (·.1.elements) := by
    decide +kernel
  have hoff : undiscovering.NeverDiscovers := .inr (by decide +kernel)
  obtain ⟨hbeside, hinline⟩ := make_ignores_scores hoff hsame
  -- if neither run came to an end they would be equal
  rcases hbeside steadyTape with ⟨hnone, hnone'⟩ | ⟨run, run', tape', h, h', hunscored⟩
  · rw [hnone, hnone'] at hscored
    exact absurd rfl hscored
  · refine ⟨run, run', tape', h, h', hunscored, fun heq => ?_, hinline _ _ _ h⟩
    rw [h, h', heq] at hscored
    exact hscored rfl

end Run

end NewsFeed
