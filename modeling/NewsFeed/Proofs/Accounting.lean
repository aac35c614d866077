/-
The record of a run accounts for it.

Each step makes a block, a cluster, a card or nothing (`Batch`), and each of these says how the
number of elements it adds and the number of articles it takes go together.  The record of a step
keeps both numbers, so the records of a run add up to its feed and to the articles taken, and the
size of the pool after one step is the size before the next (`Accounted`).

* `perform_batch` — what a step makes, next to the sizes of the pool before and after it;
* `nth_eq_scheduled` — which step belongs to an iteration;
* `Reaches.accounted` — the invariant that the records of a run keep;
* `make_accounts` — what the records of the run returned say, one by one and in total.
-/
import NewsFeed.Proofs.Stopping

namespace NewsFeed

/-- A block as it stands in a feed. -/
def Element.block (hero : Article) (inlines : List (Article × Bool)) : List Element :=
  .hero hero :: inlines.map fun (article, isDiscover) => .inline article isDiscover

/-- What a step can make, next to the sizes of the pool before and after it. -/
inductive Batch (step : Step) (before after : ℕ) : List Element → Prop where
  | nothing (kept : after = before) : Batch step before after []
  | block (hero : Article) (inlines : List (Article × Bool))
      (place : step ≠ .cluster ∧ step ≠ .specialCard)
      (taken : after + (inlines.length + 1) = before) :
      Batch step before after (Element.block hero inlines)
  | cluster (kind : ClusterType) (elements : List ArticleElement) (place : step = .cluster)
      (nonempty : elements ≠ []) (taken : after + elements.length = before) :
      Batch step before after [.cluster kind elements]
  | card (element : Element) (place : step = .specialCard)
      (special : element.isSpecialCard = true) (kept : after = before) :
      Batch step before after [element]

/-- What the record of a step says about it. -/
structure StepTrace.Consistent (trace : StepTrace) : Prop where
  pool : trace.poolAfter ≤ trace.poolBefore
  /-- A step that makes a block adds an element for each article that it takes. -/
  block : trace.step = .opening ∨ trace.step = .topNews ∨ trace.step = .default →
    trace.produced = trace.poolBefore - trace.poolAfter
  /-- A cluster is one element, and there is one exactly if articles were taken. -/
  cluster : trace.step = .cluster →
    trace.produced = if trace.poolAfter < trace.poolBefore then 1 else 0
  /-- A card takes no article. -/
  card : trace.step = .specialCard → trace.produced ≤ 1 ∧ trace.poolAfter = trace.poolBefore

/-- A record with the right sizes and count is consistent. -/
theorem Batch.consistent {trace : StepTrace} {produced : List Element}
    (h : Batch trace.step trace.poolBefore trace.poolAfter produced)
    (hproduced : trace.produced = produced.length) : trace.Consistent := by
  obtain ⟨iteration, step, before, after, count⟩ := trace
  dsimp only at h hproduced
  subst hproduced
  cases h with
  | nothing kept =>
    subst kept
    exact ⟨le_rfl, by simp, by simp, by simp⟩
  | block hero inlines place taken =>
    refine ⟨by show after ≤ before; omega, fun _ => ?_, fun hstep => absurd hstep place.1,
      fun hstep => absurd hstep place.2⟩
    -- as many elements as articles were taken: the hero and the inlines
    show (Element.block hero inlines).length = before - after
    simp [Element.block]
    omega
  | cluster kind elements place nonempty taken =>
    have hpos := List.length_pos_iff.mpr nonempty
    subst place
    refine ⟨by show after ≤ before; omega, by simp, fun _ => ?_, by simp⟩
    show 1 = if after < before then 1 else 0
    -- a cluster that is not empty has taken something, and it is one element
    rw [if_pos (by omega)]
  | card element place special kept =>
    subst place kept
    exact ⟨le_rfl, by simp, by simp, by simp⟩

/-- The steps by iteration: two at the top, then three that repeat. -/
def Step.scheduled : ℕ → Step
  | 0 => .opening
  | 1 => .topNews
  | n + 2 => if n % 3 = 0 then .default else if n % 3 = 1 then .cluster else .specialCard

theorem Step.nth_eq_scheduled (n : ℕ) : Step.nth n = Step.scheduled n := by
  induction n using Nat.strong_induction_on with
  | _ n ih =>
    match n with
    | 0 => rfl
    | 1 => rfl
    | 2 => rfl
    | n + 3 =>
      -- past the opening the remainder says which step comes, and so which one comes after it
      have hnext : Step.nth (n + 3) = (Step.nth (n + 2)).next := rfl
      rw [hnext, ih (n + 2) (by omega)]
      have hcases : n % 3 = 0 ∨ n % 3 = 1 ∨ n % 3 = 2 := by omega
      simp only [Step.scheduled]
      rcases hcases with h | h | h
      · rw [if_pos h, if_neg (by omega), if_pos (by omega)]
        rfl
      · rw [if_neg (by omega), if_pos h, if_neg (by omega), if_neg (by omega)]
        rfl
      · rw [if_neg (by omega), if_neg (by omega), if_pos (by omega)]
        rfl

namespace Run

variable {settings : Settings} {snapshot snapshot' : Snapshot} {step : Step}
  {produced : List Element} {tape tape' : Tape}

/-! ### Steps -/

theorem batch_of_made {scope : Scope} {elements : List ArticleElement}
    (hscope : step.scope? settings = some scope)
    (hmade : Block.Made snapshot scope elements snapshot') :
    Batch step snapshot.articles.length snapshot'.articles.length
      (elements.map Element.ofArticleElement) := by
  have hplace : step ≠ .cluster ∧ step ≠ .specialCard := by
    constructor <;> (rintro rfl; cases hscope)
  have hlength := hmade.length_add
  cases hmade with
  | nothing => exact .nothing rfl
  | block hero inlines taken unvisited =>
    have helements : (Block.assemble snapshot hero inlines).1.map Element.ofArticleElement =
        Element.block hero.article (inlines.map fun inline => (inline.1.article, inline.2)) := by
      simp [Block.assemble, Element.block, Element.ofArticleElement]
    rw [helements]
    refine .block _ _ hplace ?_
    simp [Block.assemble] at hlength ⊢
    omega

/-- What a step makes, next to the sizes of the pool before and after it. -/
theorem perform_batch {iteration : ℕ}
    (h : perform step iteration snapshot settings tape = some ((produced, snapshot'), tape')) :
    Batch step snapshot.articles.length snapshot'.articles.length produced := by
  rcases perform_cases h with ⟨scope, elements, hscope, rfl, hblock⟩ |
    ⟨rfl, element, rfl, hcluster⟩ | ⟨rfl, element, rfl, hcard⟩
  · exact batch_of_made hscope (Block.generate_made hblock)
  · rcases randomCluster_cases hcluster with
      ⟨rfl, rfl⟩ | ⟨channel, -, -, elements, mid, rfl, hne, hblock⟩
    · exact .nothing rfl
    · have hlength := (Block.generate_made hblock).length_add
      exact .cluster _ _ rfl hne (by omega)
  · rcases card_cases hcard with ⟨-, rfl, rfl⟩ | ⟨-, rfl, rfl⟩ | ⟨-, rfl, rfl⟩
    · exact .nothing rfl
    · exact .card _ rfl rfl rfl
    · exact .card _ rfl rfl rfl

/-! ### Runs -/

/-- Whether the records of a run in the middle add up, if its pool had `size` articles at first. -/
structure Progress.Accounted (size : ℕ) (progress : Progress) : Prop where
  iterations : progress.run.steps.map StepTrace.iteration = List.range progress.run.iterations
  /-- The sizes of the pool link up, from the first to the one of now. -/
  sizes : size :: progress.run.steps.map StepTrace.poolAfter =
    progress.run.steps.map StepTrace.poolBefore ++ [progress.snapshot.articles.length]
  consumed : (progress.run.steps.map fun trace => trace.poolBefore - trace.poolAfter).sum =
    progress.run.consumed
  produced : (progress.run.steps.map StepTrace.produced).sum = progress.run.elements.length
  consistent : ∀ trace ∈ progress.run.steps, trace.Consistent

namespace Progress

variable {size : ℕ} {progress last : Progress}

theorem accounted_start (snapshot : Snapshot) (settings : Settings) :
    (start snapshot settings).Accounted (screened snapshot settings).articles.length :=
  ⟨rfl, rfl, rfl, rfl, fun _ hmem => nomatch hmem⟩

/-- A step adds its own record and leaves the others as they are. -/
theorem Accounted.record (h : progress.Accounted size)
    (hperform : perform progress.step progress.run.iterations progress.snapshot settings tape =
      some ((produced, snapshot'), tape')) :
    (progress.record produced snapshot').Accounted size where
  iterations := by
    rw [record_steps, record_iterations, List.map_append, h.iterations, List.range_succ]
    rfl
  sizes := by
    rw [record_steps, record_snapshot, List.map_append, List.map_append, ← List.cons_append,
      h.sizes]
    rfl
  consumed := by
    rw [record_steps, record_consumed, List.map_append, List.sum_append, h.consumed]
    rfl
  produced := by
    rw [record_steps, record_elements, List.map_append, List.sum_append, h.produced,
      List.length_append]
    rfl
  consistent := by
    intro trace hmem
    rw [record_steps] at hmem
    -- a record is either older than the step or the one that it adds
    rcases List.mem_append.mp hmem with hmem | hmem
    · exact h.consistent trace hmem
    · obtain rfl := List.mem_singleton.mp hmem
      exact (perform_batch hperform).consistent rfl

theorem Reaches.accounted
    (h : Reaches settings (Progress.start snapshot settings) tape last tape') :
    last.Accounted (screened snapshot settings).articles.length :=
  h.induct_perform (accounted_start snapshot settings)
    fun _ _ _ _ _ _ ih _ hperform => ih.record hperform

theorem Accounted.length_steps (h : progress.Accounted size) :
    progress.run.steps.length = progress.run.iterations := by
  have hlength := congrArg List.length h.iterations
  rwa [List.length_map, List.length_range] at hlength

theorem Accounted.iteration_eq (h : progress.Accounted size) {i : ℕ} {trace : StepTrace}
    (hi : progress.run.steps[i]? = some trace) : trace.iteration = i := by
  have hget := congrArg (fun numbers => numbers[i]?) h.iterations
  obtain ⟨hlt, -⟩ := List.getElem?_eq_some_iff.mp hi
  rw [h.length_steps] at hlt
  simpa [hi, hlt] using hget

/-- The first step finds the pool as it was at first. -/
theorem Accounted.poolBefore_zero (h : progress.Accounted size) {trace : StepTrace}
    (hi : progress.run.steps[0]? = some trace) : trace.poolBefore = size := by
  obtain ⟨rest, hrest⟩ : ∃ rest, progress.run.steps = trace :: rest := by
    rw [← List.head?_eq_getElem?] at hi
    exact ⟨_, List.head?_eq_some_iff.mp hi |>.choose_spec⟩
  have hsizes := h.sizes
  rw [hrest] at hsizes
  exact (List.cons.inj hsizes).1.symm

/-- Each later step finds the pool as the step before it left it. -/
theorem Accounted.poolBefore_succ (h : progress.Accounted size) {i : ℕ} {earlier later : StepTrace}
    (hi : progress.run.steps[i]? = some earlier) (hi' : progress.run.steps[i + 1]? = some later) :
    later.poolBefore = earlier.poolAfter := by
  -- the size at this place, once as what a step left and once as what the next one found
  have hget := congrArg (fun sizes => sizes[i + 1]?) h.sizes
  obtain ⟨hlt, -⟩ := List.getElem?_eq_some_iff.mp hi'
  rw [List.getElem?_cons_succ, List.getElem?_map, hi,
    List.getElem?_append_left (by rwa [List.length_map]), List.getElem?_map, hi'] at hget
  exact (Option.some_inj.mp hget).symm

theorem Tracked.step_eq (h : progress.Tracked) {i : ℕ} {trace : StepTrace}
    (hi : progress.run.steps[i]? = some trace) : trace.step = Step.scheduled i := by
  have hget := congrArg (fun steps => steps[i]?) h.steps
  have hlength := congrArg List.length h.steps
  obtain ⟨hlt, -⟩ := List.getElem?_eq_some_iff.mp hi
  rw [List.length_map, Step.length_sequence] at hlength
  rw [hlength] at hlt
  rw [List.getElem?_map, hi, Step.sequence, List.getElem?_map, List.getElem?_range hlt] at hget
  rw [← Step.nth_eq_scheduled]
  exact Option.some_inj.mp hget

end Progress

/-- The records of a run are one for each iteration, in order, and each is consistent.  The sizes of
the pool link up from what was left of it before the first step, what was taken adds up to the
articles taken, and what was added adds up to the feed. -/
theorem make_accounts {run : Run} (h : make snapshot settings tape = some (run, tape')) :
    run.steps.length = run.iterations ∧
    (∀ i trace, run.steps[i]? = some trace →
      trace.iteration = i ∧ trace.step = Step.scheduled i ∧ trace.Consistent) ∧
    (∀ first, run.steps[0]? = some first →
      first.poolBefore + run.filteredOut = snapshot.articles.length) ∧
    (∀ i earlier later, run.steps[i]? = some earlier → run.steps[i + 1]? = some later →
      later.poolBefore = earlier.poolAfter) ∧
    (run.steps.map fun trace => trace.poolBefore - trace.poolAfter).sum = run.consumed ∧
    (run.steps.map StepTrace.produced).sum = run.elements.length := by
  obtain ⟨last, hreaches, -, rfl⟩ := make_reaches h
  have haccounted := hreaches.accounted
  refine ⟨haccounted.length_steps, ?_, ?_, fun i earlier later => haccounted.poolBefore_succ,
    haccounted.consumed, haccounted.produced⟩
  · intro i trace hi
    exact ⟨haccounted.iteration_eq hi, hreaches.tracked.step_eq hi,
      haccounted.consistent trace (List.mem_of_getElem? hi)⟩
  · intro first hi
    have hscreened := (screened_within snapshot settings).articles.length_le
    have hfiltered : last.close.filteredOut = _ := hreaches.filteredOut
    rw [haccounted.poolBefore_zero hi, hfiltered]
    omega

theorem make_accounts_varied :
    ∃ run tape', make varied heroesOnly steadyTape = some (run, tape') ∧
      run.steps.length = 7 ∧
      (∀ first, run.steps[0]? = some first → first.poolBefore = 5) ∧
      (run.steps.map fun trace => trace.poolBefore - trace.poolAfter).sum = 5 ∧
      (run.steps.map StepTrace.produced).sum = 6 := by
  obtain ⟨run, tape', h, hiterations, hfiltered, htaken, hadded, -⟩ := make_varied
  obtain ⟨hlength, -, hfirst, -, hconsumed, hproduced⟩ := make_accounts h
  refine ⟨run, tape', h, hlength.trans hiterations, ?_, hconsumed.trans htaken,
    hproduced.trans hadded⟩
  intro first hi
  have hsize := hfirst first hi
  rw [hfiltered] at hsize
  exact Nat.add_right_cancel hsize

end Run

end NewsFeed
