/-
Runs that are cut short.

The limit on the iterations says only where a run stops; no step looks at it.  So a run with a lower
limit does what a run with a higher one does, for as long as it is allowed to, and leaves off there.

A run that walks on for so many steps at most (`walk`) and is then finished within so many more is
the run finished within the sum of both (`finish_add`).  Where the walk has stopped by itself there
is nothing left to finish, and elsewhere its steps are used up (`walk_stops`).

* `perform_limitedTo` — a step does not look at the limit;
* `finish_add` — a run in two stages;
* `make_truncates` — what two runs that differ only in the limit have in common.
-/
import NewsFeed.Proofs.Accounting

namespace NewsFeed

/-- The settings with another limit on the iterations. -/
def Settings.limitedTo (settings : Settings) (limit : UInt64) : Settings :=
  { settings with maxIterations := limit }

variable {settings : Settings} {limit : UInt64} {snapshot : Snapshot} {tape tape' : Tape}

/-! ### Steps -/

theorem Block.fillSlots_limitedTo (signals : Signals) (slots : ℕ) (eligible : List Candidate) :
    fillSlots signals (settings.limitedTo limit) slots eligible =
      fillSlots signals settings slots eligible := by
  induction slots generalizing eligible with
  | zero => rfl
  | succ slots ih =>
    have hslot : pickInline signals (settings.limitedTo limit) eligible =
        pickInline signals settings eligible := rfl
    rw [fillSlots, fillSlots, hslot]
    simp only [ih]

theorem Block.generate_limitedTo (snapshot : Snapshot) (scope : Scope) :
    generate snapshot scope (settings.limitedTo limit) = generate snapshot scope settings := by
  have hcount : inlineCount (settings.limitedTo limit) = inlineCount settings := rfl
  have hpick : pickByWeight snapshot.signals (settings.limitedTo limit) =
      pickByWeight snapshot.signals settings := rfl
  rw [generate, generate, hcount, hpick]
  simp only [fillSlots_limitedTo]

theorem Cluster.generateRandom_limitedTo (snapshot : Snapshot) :
    generateRandom snapshot (settings.limitedTo limit) = generateRandom snapshot settings := by
  have hweight : ∀ channel : Channel, channel.weight snapshot.signals (settings.limitedTo limit) =
      channel.weight snapshot.signals settings := fun _ => rfl
  simp only [generateRandom, generate, hweight, Block.generate_limitedTo]

namespace Run

/-- A step does not look at the limit. -/
theorem perform_limitedTo (step : Step) (iteration : ℕ) (snapshot : Snapshot) :
    perform step iteration snapshot (settings.limitedTo limit) =
      perform step iteration snapshot settings := by
  cases step
  case opening | default =>
    show Block.generate _ _ _ >>= _ = Block.generate _ _ _ >>= _
    rw [Block.generate_limitedTo]
  case topNews =>
    show Block.generate _ (.channel settings.topNewsChannel) _ >>= _ = _
    rw [Block.generate_limitedTo]
    rfl
  case cluster =>
    show Cluster.generateRandom _ _ >>= _ = Cluster.generateRandom _ _ >>= _
    rw [Cluster.generateRandom_limitedTo]
  case specialCard => rfl

namespace Progress

variable {progress last : Progress}

theorem advance_limitedTo (progress : Progress) :
    progress.advance (settings.limitedTo limit) = progress.advance settings := by
  rw [advance, advance, perform_limitedTo]

theorem finish_limitedTo (iterations : ℕ) (progress : Progress) :
    finish (settings.limitedTo limit) iterations progress =
      finish settings iterations progress := by
  induction iterations generalizing progress with
  | zero => rfl
  | succ iterations ih =>
    rw [finish, finish, advance_limitedTo]
    simp only [ih]

/-! ### Two stages -/

/-- Does at most `iterations` more steps and stops there. -/
def walk (settings : Settings) : (iterations : ℕ) → Progress → Draw Progress
  | 0, progress => return progress
  | iterations + 1, progress => do
    if progress.isGoing then walk settings iterations (← progress.advance settings)
    else return progress

theorem finish_of_not_isGoing (h : progress.isGoing = false) (iterations : ℕ) :
    finish settings iterations progress = pure progress.close := by
  cases iterations with
  | zero => rfl
  | succ iterations => rw [finish, h, if_neg Bool.false_ne_true]

/-- A run is finished in two stages. -/
theorem finish_add (iterations more : ℕ) (progress : Progress) :
    finish settings (iterations + more) progress =
      walk settings iterations progress >>= finish settings more := by
  induction iterations generalizing progress with
  | zero => rw [Nat.zero_add, walk, pure_bind]
  | succ iterations ih =>
    rw [Nat.succ_add, finish, walk]
    split
    · rw [bind_assoc]
      exact bind_congr fun next => ih next
    · rename_i hstop
      rw [pure_bind, finish_of_not_isGoing (by simpa using hstop)]

/-- The run cut short is the first stage, closed. -/
theorem finish_eq_walk (iterations : ℕ) (progress : Progress) :
    finish settings iterations progress = walk settings iterations progress >>= (pure ·.close) :=
  finish_add iterations 0 progress

/-- A walk stops by itself or uses up its steps. -/
theorem walk_stops {iterations : ℕ}
    (h : walk settings iterations progress tape = some (last, tape')) :
    last.run.iterations ≤ progress.run.iterations + iterations ∧
      (last.isGoing = false ∨ last.run.iterations = progress.run.iterations + iterations) := by
  induction iterations generalizing progress tape with
  | zero =>
    cases h
    exact ⟨le_rfl, .inr rfl⟩
  | succ iterations ih =>
    rw [walk] at h
    split at h
    · obtain ⟨next, mid, hadvance, hrest⟩ := Draw.bind_eq_some.mp h
      obtain ⟨produced, snapshot', -, rfl⟩ := advance_eq_some.mp hadvance
      obtain ⟨hlimit, hstops⟩ := ih hrest
      rw [record_iterations] at hlimit hstops
      exact ⟨by omega, hstops.imp_right fun hused => by omega⟩
    · rename_i hstop
      cases h
      exact ⟨Nat.le_add_right _ _, .inl (by simpa using hstop)⟩

/-- Whatever is done after a point of a run goes behind what was done before it. -/
theorem finish_extends {iterations : ℕ} {run : Run}
    (h : finish settings iterations progress tape = some (run, tape')) :
    progress.run.steps <+: run.steps ∧ progress.run.elements <+: run.elements ∧
      progress.run.iterations ≤ run.iterations := by
  induction iterations generalizing progress tape with
  | zero =>
    cases h
    exact ⟨List.prefix_rfl, List.prefix_rfl, le_rfl⟩
  | succ iterations ih =>
    rw [finish] at h
    split at h
    · obtain ⟨next, mid, hadvance, hrest⟩ := Draw.bind_eq_some.mp h
      obtain ⟨produced, snapshot', -, rfl⟩ := advance_eq_some.mp hadvance
      obtain ⟨hsteps, helements, hiterations⟩ := ih hrest
      rw [record_steps] at hsteps
      rw [record_elements] at helements
      rw [record_iterations] at hiterations
      -- a step is recorded at the end, and the rest only adds to that
      exact ⟨(List.prefix_append _ _).trans hsteps, (List.prefix_append _ _).trans helements,
        Nat.le_of_succ_le hiterations⟩
    · cases h
      exact ⟨List.prefix_rfl, List.prefix_rfl, le_rfl⟩

end Progress

/-! ### Runs -/

theorem make_limitedTo (snapshot : Snapshot) (settings : Settings) (limit : UInt64) :
    make snapshot (settings.limitedTo limit) =
      (Progress.start snapshot settings).finish settings limit.toNat :=
  Progress.finish_limitedTo limit.toNat (Progress.start snapshot settings)

/-- Two runs that differ only in their limits.  If the one with the higher limit returns, so does
the other, its steps and elements are the first ones of the longer run, and it does as many
iterations as the longer run, but for its limit.  If it ended before its limit, or without articles
left, the runs are the same and read the same words. -/
theorem make_truncates {lower higher : UInt64} (hle : lower ≤ higher) :
    (∀ longer last, make snapshot (settings.limitedTo higher) tape = some (longer, last) →
      ∃ run mid, make snapshot (settings.limitedTo lower) tape = some (run, mid) ∧
        run.steps <+: longer.steps ∧ run.elements <+: longer.elements ∧
        run.iterations = min lower.toNat longer.iterations) ∧
    ∀ run mid, make snapshot (settings.limitedTo lower) tape = some (run, mid) →
      run.iterations < lower.toNat ∨ run.terminatedByBound = false →
        make snapshot (settings.limitedTo higher) tape = some (run, mid) := by
  obtain ⟨more, hmore⟩ := Nat.exists_eq_add_of_le (UInt64.le_iff_toNat_le.mp hle)
  rw [make_limitedTo, make_limitedTo, hmore, Progress.finish_add, Progress.finish_eq_walk]
  constructor
  · intro longer last hlonger
    obtain ⟨stage, mid, hwalk, hfinish⟩ := Draw.bind_eq_some.mp hlonger
    obtain ⟨hsteps, helements, hiterations⟩ := Progress.finish_extends hfinish
    obtain ⟨hlimit, hstops⟩ := Progress.walk_stops hwalk
    refine ⟨stage.close, mid, Draw.bind_eq_some.mpr ⟨stage, mid, hwalk, rfl⟩, hsteps, helements, ?_⟩
    have hstart : (Progress.start snapshot settings).run.iterations = 0 := rfl
    show stage.run.iterations = _
    rcases hstops with hstop | hused
    · -- the first stage stopped by itself, so the longer run does no more
      rw [Progress.finish_of_not_isGoing hstop] at hfinish
      cases hfinish
      show stage.run.iterations = min lower.toNat stage.run.iterations
      omega
    · omega
  · intro run mid hrun hended
    obtain ⟨stage, mid', hwalk, hclose⟩ := Draw.bind_eq_some.mp hrun
    cases hclose
    obtain ⟨-, hstops⟩ := Progress.walk_stops hwalk
    have hstop : stage.isGoing = false := by
      rcases hended with hearly | hdrained
      · refine hstops.resolve_right fun hused => ?_
        have hstart : (Progress.start snapshot settings).run.iterations = 0 := rfl
        have hiterations : stage.run.iterations < lower.toNat := hearly
        omega
      · have hempty : (!stage.snapshot.articles.isEmpty) = false := hdrained
        rw [Progress.isGoing, hempty, Bool.false_and]
    exact Draw.bind_eq_some.mpr ⟨stage, mid, hwalk, by
      rw [Progress.finish_of_not_isGoing hstop]
      rfl⟩

theorem make_truncates_varied :
    (∃ run longer mid last,
      make varied (heroesOnly.limitedTo 3) steadyTape = some (run, mid) ∧
      make varied (heroesOnly.limitedTo 6) steadyTape = some (longer, last) ∧
      run.steps <+: longer.steps ∧ run.elements <+: longer.elements ∧
      run.iterations = 3 ∧ longer.iterations = 6) ∧
    ∃ run mid, make varied (heroesOnly.limitedTo 9) steadyTape = some (run, mid) ∧
      make varied (heroesOnly.limitedTo 10000) steadyTape = some (run, mid) ∧
      run.iterations = 7 := by
  have hlonger : (make varied (heroesOnly.limitedTo 6) steadyTape).map (·.1.iterations) =
      some 6 := by
    decide +kernel
  have hwhole : (make varied (heroesOnly.limitedTo 9) steadyTape).map (·.1.iterations) =
      some 7 := by
    decide +kernel
  constructor
  · obtain ⟨⟨longer, last⟩, h, hiterations⟩ := Option.map_eq_some_iff.mp hlonger
    dsimp only at hiterations
    obtain ⟨run, mid, hrun, hsteps, helements, hmin⟩ :=
      (@make_truncates heroesOnly varied steadyTape 3 6 (by decide)).1 longer last h
    rw [hiterations] at hmin
    exact ⟨run, longer, mid, last, hrun, h, hsteps, helements, hmin, hiterations⟩
  · obtain ⟨⟨run, mid⟩, h, hiterations⟩ := Option.map_eq_some_iff.mp hwhole
    dsimp only at hiterations
    have hsame := (@make_truncates heroesOnly varied steadyTape 9 10000 (by decide)).2 run mid h
      (.inl (by rw [hiterations]; decide))
    exact ⟨run, mid, h, hsame, hiterations⟩

end Run

end NewsFeed
