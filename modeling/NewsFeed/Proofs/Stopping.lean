/-
Which steps a run has tried when it stops for idleness.

A run stops with articles left after three idle steps in a row.  If the first of them is a step of
the cycle they are one default, one cluster and one special card step.  But the opening and the top
news step count as idle, too: if neither can draw, the run stops after the first default step, and
no cluster has been tried.  That happens exactly if the run starts idle (`StartsIdle`): the weights
of all articles overflow, and so do those of the top news articles, if there are any.

* `Reaches.tracked` — the steps of a run are those of `Step.sequence`, and as many of the last ones
  as `idle` says left the pool alone;
* `make_stops_idle` — what the last three steps of an idle stop are.
-/
import Mathlib.Data.List.Rotate
import NewsFeed.Proofs.Draining

namespace NewsFeed

namespace Step

/-- The step of iteration `n`. -/
def nth (n : ℕ) : Step :=
  Nat.repeat next n initial

theorem sequence_succ (n : ℕ) : sequence (n + 1) = sequence n ++ [Step.nth n] := by
  rw [sequence, List.range_succ, List.map_append]
  rfl

theorem length_sequence (n : ℕ) : (sequence n).length = n := by
  rw [sequence, List.length_map, List.length_range]

/-- The first two steps do not come back. -/
theorem nth_mem_cycle_iff {n : ℕ} : Step.nth n ∈ cycle ↔ 2 ≤ n := by
  have hlater : ∀ m, Step.nth (m + 2) ∈ cycle := by
    intro m
    induction m with
    | zero => decide
    | succ m ih =>
      have hnext : Step.nth (m + 1 + 2) = (Step.nth (m + 2)).next := rfl
      rw [hnext]
      revert ih
      cases Step.nth (m + 2) <;> decide
  constructor
  · intro h
    by_contra hlt
    obtain rfl | rfl : n = 0 ∨ n = 1 := by omega
    · exact absurd h (by decide)
    · exact absurd h (by decide)
  · intro h
    obtain ⟨m, rfl⟩ := Nat.exists_eq_add_of_le' h
    exact hlater m

/-- Three steps in a row are the cycle, up to where it starts, if the first belongs to it. -/
theorem isRotated_cycle_iff (step : Step) :
    [step, step.next, step.next.next].IsRotated cycle ↔ step ∈ cycle := by
  cases step <;> decide

end Step

namespace Run

variable {settings : Settings} {snapshot snapshot' : Snapshot} {step : Step}
  {produced : List Element} {tape tape' : Tape}

/-! ### The steps so far -/

/-- What the record of a run in the middle says of its steps. -/
structure Progress.Tracked (progress : Progress) : Prop where
  step : progress.step = Step.nth progress.run.iterations
  steps : progress.run.steps.map StepTrace.step = Step.sequence progress.run.iterations
  idle : ∃ earlier recent, progress.run.steps = earlier ++ recent ∧
    recent.length = progress.idle ∧ ∀ trace ∈ recent, trace.poolAfter = trace.poolBefore
  idle_le : progress.idle ≤ Step.cycle.length

namespace Progress

theorem tracked_start (snapshot : Snapshot) (settings : Settings) :
    (Progress.start snapshot settings).Tracked :=
  ⟨rfl, rfl, ⟨[], [], rfl, rfl, fun _ hmem => nomatch hmem⟩, Nat.zero_le _⟩

theorem idle_lt_of_going {progress : Progress} (h : ¬ progress.HasEnded settings) :
    progress.idle < Step.cycle.length :=
  (not_hasEnded_iff.mp h).2.1

theorem Tracked.record {progress : Progress} (h : progress.Tracked)
    (hgoing : ¬ progress.HasEnded settings)
    (hperformed : Performed settings progress.snapshot progress.step produced snapshot') :
    (progress.record produced snapshot').Tracked := by
  obtain ⟨hstep, hsteps, ⟨earlier, recent, hsplit, hrecent, hidle⟩, -⟩ := h
  have hle := hperformed.within.articles.length_le
  have hlt := idle_lt_of_going hgoing
  refine ⟨?_, ?_, ?_, ?_⟩
  · rw [record_step, record_iterations, hstep]
    rfl
  · rw [record_steps, record_iterations, List.map_append, hsteps, Step.sequence_succ, ← hstep]
    rfl
  · rw [record_steps, record_idle]
    -- a step that took something ends the streak
    split_ifs with htook
    · exact ⟨_, [], (List.append_nil _).symm, rfl, fun _ hmem => nomatch hmem⟩
    · refine ⟨earlier, recent ++ [progress.trace produced snapshot'], ?_, ?_, fun trace hmem => ?_⟩
      · rw [hsplit, List.append_assoc]
      · rw [List.length_append, hrecent]
        rfl
      · -- the streak grows by the step at hand, which left the pool as long as it was
        rcases List.mem_append.mp hmem with hmem | hmem
        · exact hidle trace hmem
        · obtain rfl := List.mem_singleton.mp hmem
          show snapshot'.articles.length = progress.snapshot.articles.length
          omega
  · rw [record_idle]
    split_ifs
    · exact Nat.zero_le _
    · exact hlt

theorem Reaches.tracked {last : Progress}
    (h : Reaches settings (Progress.start snapshot settings) tape last tape') : last.Tracked :=
  h.induct (tracked_start snapshot settings) fun _ _ _ ih hgoing hperformed =>
    ih.record hgoing hperformed

/-- The last three steps of a run that was idle three times. -/
theorem Tracked.exists_last {last : Progress} (h : last.Tracked)
    (hidle : last.idle = Step.cycle.length) :
    ∃ earlier a b c, last.run.steps = earlier ++ [a, b, c] ∧
      (∀ trace ∈ [a, b, c], trace.poolAfter = trace.poolBefore) ∧
      ([a.step, b.step, c.step].IsRotated Step.cycle ↔ 5 ≤ last.run.iterations) := by
  obtain ⟨-, hsteps, ⟨earlier, recent, hsplit, hrecent, hall⟩, -⟩ := h
  obtain ⟨a, b, c, rfl⟩ := List.length_eq_three.mp (hrecent.trans hidle)
  -- the three steps are a rotation exactly if the first of them is not the opening or top news step
  refine ⟨earlier, a, b, c, hsplit, hall, ?_⟩
  have hlength := congrArg List.length hsteps
  rw [List.length_map, Step.length_sequence, hsplit, List.length_append] at hlength
  have hiterations : last.run.iterations = earlier.length + 3 := hlength.symm
  have hlast : [a.step, b.step, c.step] =
      [Step.nth earlier.length, (Step.nth earlier.length).next,
        (Step.nth earlier.length).next.next] := by
    rw [hsplit, List.map_append, hiterations, Step.sequence_succ, Step.sequence_succ,
      Step.sequence_succ, List.append_assoc, List.append_assoc] at hsteps
    exact (List.append_inj hsteps (by rw [List.length_map, Step.length_sequence])).2
  rw [hlast, Step.isRotated_cycle_iff, Step.nth_mem_cycle_iff]
  omega

end Progress

/-! ### Starting idle -/

/-- The sum of the weights of articles. -/
def weightSum (signals : Signals) (settings : Settings) (pool : List Article) : Float :=
  Lottery.sum (pool.map fun article => article.weight signals settings)

/-- The top news articles of a pool. -/
def topNews (snapshot : Snapshot) (settings : Settings) (pool : List Article) : List Article :=
  pool.filter fun article =>
    (Scope.channel settings.topNewsChannel).admits snapshot.publishers article

/-- Whether the first three steps of a run find nothing to draw: the weights of all articles
overflow, and there are no top news or their weights overflow as well. -/
def StartsIdle (snapshot : Snapshot) (settings : Settings) : Prop :=
  let pool := snapshot.articles.filter fun article => 0.0 < article.weight snapshot.signals settings
  ¬ (weightSum snapshot.signals settings pool).isFinite = true ∧
    (topNews snapshot settings pool = [] ∨
      ¬ (weightSum snapshot.signals settings (topNews snapshot settings pool)).isFinite = true)

/-- A step without drawable candidates changes nothing. -/
theorem perform_idle {scope : Scope} {iteration : ℕ} (hscope : step.scope? settings = some scope)
    (hpos : ∀ article ∈ snapshot.articles, 0.0 < article.weight snapshot.signals settings)
    (hnot : Block.candidates snapshot scope = [] ∨ ¬ Drawable snapshot.signals settings
      ((Block.candidates snapshot scope).map Candidate.article))
    (h : perform step iteration snapshot settings tape = some ((produced, snapshot'), tape')) :
    snapshot' = snapshot := by
  obtain ⟨elements, -, hgenerate⟩ := perform_block hscope h
  exact Block.eq_self_of_not_drawable hgenerate hpos hnot

namespace Progress

variable {progress last : Progress}

/-- Whether nothing was taken from the pool yet. -/
structure Untouched (snapshot : Snapshot) (settings : Settings) (progress : Progress) : Prop where
  within : progress.snapshot.Within (screened snapshot settings)
  articles : progress.snapshot.articles = (screened snapshot settings).articles

theorem Untouched.positive (h : progress.Untouched snapshot settings) :
    ∀ article ∈ progress.snapshot.articles,
      0.0 < article.weight progress.snapshot.signals settings :=
  fun _ => weight_pos_of_within h.within

/-- As long as nothing was taken, the candidates are those of the start. -/
theorem Untouched.map_candidates (h : progress.Untouched snapshot settings) (scope : Scope) :
    (Block.candidates progress.snapshot scope).map Candidate.article =
      (screened snapshot settings).articles.filter fun article =>
        scope.admits snapshot.publishers article := by
  rw [Block.map_article_candidates, h.articles, h.within.publishers]
  rfl

/-- An untouched pool whose weights overflow is left alone by an opening or default step. -/
theorem Untouched.everything (h : progress.Untouched snapshot settings)
    (hoverflow : ¬ Drawable snapshot.signals settings (screened snapshot settings).articles)
    (hscope : progress.step.scope? settings = some .everything)
    (hperform : perform progress.step progress.run.iterations progress.snapshot settings tape =
      some ((produced, snapshot'), tape')) : snapshot' = progress.snapshot := by
  refine perform_idle hscope h.positive (.inr ?_) hperform
  rw [h.map_candidates, h.within.signals, Block.filter_admits_everything]
  exact hoverflow

theorem Untouched.record (h : progress.Untouched snapshot settings)
    (heq : snapshot' = progress.snapshot) :
    (progress.record produced snapshot').Untouched snapshot settings := by
  subst heq
  exact ⟨h.within, h.articles⟩

theorem idle_record (heq : snapshot' = progress.snapshot) :
    (progress.record produced snapshot').idle = progress.idle + 1 := by
  subst heq
  exact if_neg (lt_irrefl _)

theorem screened_positive (snapshot : Snapshot) (settings : Settings) :
    ∀ article ∈ (screened snapshot settings).articles,
      0.0 < article.weight snapshot.signals settings := fun _ hmem =>
  decide_eq_true_eq.mp (List.mem_filter.mp hmem).2

theorem topNews_positive (snapshot : Snapshot) (settings : Settings) :
    ∀ article ∈ topNews snapshot settings (screened snapshot settings).articles,
      0.0 < article.weight snapshot.signals settings := fun article hmem =>
  screened_positive snapshot settings article (List.mem_filter.mp hmem).1

/-- A run that starts idle takes nothing. -/
theorem Reaches.idle_eq_iterations
    (h : Reaches settings (Progress.start snapshot settings) tape last tape')
    (hidle : StartsIdle snapshot settings) : last.idle = last.run.iterations := by
  obtain ⟨hpool, hnews⟩ := hidle
  have hoverflow : ¬ Drawable snapshot.signals settings (screened snapshot settings).articles :=
    fun hdrawable => hpool hdrawable.finite
  have hboth : last.Untouched snapshot settings ∧ last.idle = last.run.iterations := by
    refine h.induct_perform (P := fun progress =>
      progress.Untouched snapshot settings ∧ progress.idle = progress.run.iterations) ?_ ?_
    · exact ⟨⟨Snapshot.Within.refl _, rfl⟩, rfl⟩
    rintro progress produced snapshot' mid mid' hreaches ⟨huntouched, hcount⟩ hgoing hperform
    -- with every step so far idle, only the first three steps can come
    have heq : snapshot' = progress.snapshot := by
      have hlt : progress.idle < 3 := idle_lt_of_going hgoing
      have hstep := hreaches.tracked.step
      obtain hzero | hone | htwo : progress.run.iterations = 0 ∨ progress.run.iterations = 1 ∨
        progress.run.iterations = 2 := by omega
      · exact huntouched.everything hoverflow (by rw [hstep, hzero]; rfl) hperform
      · have hscope : progress.step.scope? settings =
            some (.channel settings.topNewsChannel) := by rw [hstep, hone]; rfl
        refine perform_idle hscope huntouched.positive ?_ hperform
        rw [← List.map_eq_nil_iff (f := Candidate.article), huntouched.map_candidates,
          huntouched.within.signals]
        exact hnews.imp id fun hinfinite hdrawable => hinfinite hdrawable.finite
      · exact huntouched.everything hoverflow (by rw [hstep, htwo]; rfl) hperform
    refine ⟨huntouched.record heq, ?_⟩
    rw [idle_record heq, hcount]
    rfl
  exact hboth.2

/-- If only the opening step cannot draw, the top news step takes something, and the run stays two
steps ahead of its idleness. -/
theorem Reaches.idle_add_two_le
    (h : Reaches settings (Progress.start snapshot settings) tape last tape')
    (hoverflow : ¬ Drawable snapshot.signals settings (screened snapshot settings).articles)
    (hne : topNews snapshot settings (screened snapshot settings).articles ≠ [])
    (hnews : Drawable snapshot.signals settings
      (topNews snapshot settings (screened snapshot settings).articles)) :
    last.run.iterations ≤ 1 ∨ last.idle + 2 ≤ last.run.iterations := by
  have hcases : last.run.iterations ≤ 1 ∧ last.Untouched snapshot settings ∨
      last.idle + 2 ≤ last.run.iterations := by
    refine h.induct_perform (P := fun progress =>
      progress.run.iterations ≤ 1 ∧ progress.Untouched snapshot settings ∨
        progress.idle + 2 ≤ progress.run.iterations) ?_ ?_
    · exact .inl ⟨Nat.zero_le _, Snapshot.Within.refl _, rfl⟩
    rintro progress produced snapshot' mid mid' hreaches hcases hgoing hperform
    have hstep := hreaches.tracked.step
    rcases hcases with ⟨hle, huntouched⟩ | hahead
    · -- the first step overflows and takes nothing, the second one takes top news
      obtain hzero | hone : progress.run.iterations = 0 ∨ progress.run.iterations = 1 := by omega
      · have heq := huntouched.everything hoverflow (by rw [hstep, hzero]; rfl) hperform
        exact .inl ⟨by rw [record_iterations, hzero], huntouched.record heq⟩
      · right
        have hscope : progress.step.scope? settings =
            some (.channel settings.topNewsChannel) := by rw [hstep, hone]; rfl
        have hcandidates := huntouched.map_candidates (.channel settings.topNewsChannel)
        obtain ⟨hlt, -⟩ := perform_takes hscope
          (fun hnil => hne (by rw [hnil] at hcandidates; exact hcandidates.symm))
          (by rw [hcandidates, huntouched.within.signals]; exact hnews) hperform
        rw [record_idle, if_pos hlt, record_iterations]
        omega
    · right
      rw [record_idle, record_iterations]
      -- from then on the streak grows no faster than the iterations
      split_ifs <;> omega
  exact hcases.imp_left And.left

theorem Tracked.idle_le_iterations (h : last.Tracked) : last.idle ≤ last.run.iterations := by
  obtain ⟨-, hsteps, ⟨earlier, recent, hsplit, hrecent, -⟩, -⟩ := h
  have hlength := congrArg List.length hsteps
  rw [List.length_map, Step.length_sequence, hsplit, List.length_append] at hlength
  omega

/-- A run that was idle three times in a row did at least five steps, unless it started idle. -/
theorem Reaches.five_le_iterations_iff
    (h : Reaches settings (Progress.start snapshot settings) tape last tape')
    (hidle : last.idle = Step.cycle.length) :
    5 ≤ last.run.iterations ↔ ¬ StartsIdle snapshot settings := by
  have hthree : last.idle = 3 := hidle
  have hle := h.tracked.idle_le_iterations
  -- if all articles could be drawn together, no run would be idle for three steps
  have hoverflow : ¬ Drawable snapshot.signals settings (screened snapshot settings).articles := by
    intro hdrawable
    have hbound := (h.draining hdrawable).idle
    have htwo : idleBound last.step ≤ 2 := by cases last.step <;> decide
    omega
  constructor
  · intro hfive hstarts
    have hcount := h.idle_eq_iterations hstarts
    omega
  · intro hnot
    have hnews : topNews snapshot settings (screened snapshot settings).articles ≠ [] ∧
        Drawable snapshot.signals settings
          (topNews snapshot settings (screened snapshot settings).articles) := by
      by_contra hnone
      refine hnot ⟨fun hfinite => hoverflow ⟨screened_positive snapshot settings, hfinite⟩, ?_⟩
      by_cases hnil : topNews snapshot settings (screened snapshot settings).articles = []
      · exact .inl hnil
      · refine .inr fun hfinite => hnone ⟨hnil, topNews_positive snapshot settings, hfinite⟩
    have hahead := h.idle_add_two_le hoverflow hnews.1 hnews.2
    omega

end Progress

/-- The last three steps of a run that stops for idleness left the pool alone.  They are the steps
of the cycle, up to where it starts, unless the run started idle. -/
theorem make_stops_idle {run : Run} (h : make snapshot settings tape = some (run, tape'))
    (hbound : run.terminatedByBound = true)
    (hlimit : run.iterations < settings.maxIterations.toNat) :
    ∃ earlier a b c, run.steps = earlier ++ [a, b, c] ∧
      (∀ trace ∈ [a, b, c], trace.poolAfter = trace.poolBefore) ∧
      ([a.step, b.step, c.step].IsRotated Step.cycle ↔ ¬ StartsIdle snapshot settings) := by
  obtain ⟨last, hreaches, hended, rfl⟩ := make_reaches h
  have hnonempty : (!last.snapshot.articles.isEmpty) = true := hbound
  -- neither an empty pool nor the limit has stopped it
  have hidle : last.idle = Step.cycle.length := by
    refine le_antisymm hreaches.tracked.idle_le (not_lt.mp fun hlt => ?_)
    rcases hended with hgoing | hused
    · rw [Progress.isGoing, hnonempty, decide_eq_true hlt] at hgoing
      cases hgoing
    · exact absurd hlimit (not_lt.mpr hused)
  obtain ⟨earlier, a, b, c, hsteps, hall, hrotated⟩ := hreaches.tracked.exists_last hidle
  exact ⟨earlier, a, b, c, hsteps, hall,
    hrotated.trans (hreaches.five_le_iterations_iff hidle)⟩

/-- A signal whose article has so much weight that two of them overflow. -/
def heavySignal : Signal where
  channelSubscribed := true
  sourceSubscribed := true
  sourceVisits := 1.0
  popRecency := 1e308

/-- Two articles whose weights overflow together, one of which could stand in a cluster. -/
def overflowing : Snapshot where
  publishers := Dict.ofList [("p", ⟨"p", "p", "", [⟨"en_US", ["Tech"]⟩], .notModified⟩)]
  articles := [{ id := "a", publisherId := "p", url := "u" },
    { id := "b", publisherId := "q", url := "v" }]
  signals := Dict.ofList [("u", heavySignal), ("v", heavySignal),
    ("Tech", { channelSubscribed := true, channelVisits := 1.0 })]
  channels := [⟨"Tech"⟩]

theorem make_stops_idle_overflowing :
    ∃ run tape', make overflowing {} steadyTape = some (run, tape') ∧
      run.terminatedByBound = true ∧ run.iterations = 3 ∧
      ∃ earlier a b c, run.steps = earlier ++ [a, b, c] ∧
        ¬ [a.step, b.step, c.step].IsRotated Step.cycle := by
  have hmake : (make overflowing {} steadyTape).map
      (fun result => (result.1.terminatedByBound, result.1.iterations)) = some (true, 3) := by
    decide +kernel
  have hstarts : StartsIdle overflowing {} := ⟨by decide +kernel, .inl (by decide +kernel)⟩
  obtain ⟨⟨run, tape'⟩, h, hresult⟩ := Option.map_eq_some_iff.mp hmake
  obtain ⟨hbound, hiterations⟩ := Prod.mk.inj hresult
  have hlimit : run.iterations < ({} : Settings).maxIterations.toNat := by
    rw [hiterations]
    decide
  obtain ⟨earlier, a, b, c, hsteps, -, hrotated⟩ := make_stops_idle h hbound hlimit
  exact ⟨run, tape', h, hbound, hiterations, earlier, a, b, c, hsteps,
    fun hcycle => hrotated.mp hcycle hstarts⟩

end Run

end NewsFeed
