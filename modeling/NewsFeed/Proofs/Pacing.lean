/-
How long a run goes on, and why it ends.

An idle step brings no pool closer to being empty, so the articles left do not bound the iterations
left.  But a run goes on only if fewer than three of its last steps were idle, so a step that takes
an article is preceded by two idle ones at most: the iterations are at most three for each article
taken, and one for each idle step since then (`Paced`).

A run returns if each number of inline articles that it draws comes out (`CountDraw`), since nothing
else in it repeats a draw.

* `make_isSome`, `make_eq_none_iff` — a run returns exactly if its numbers of inline articles do;
* `Reaches.paced` — the invariant that ties iterations, articles and idle steps together;
* `make_terminates` — how long the run returned is, where its idle steps stand, and which of the
  three ends it came to.
-/
import Mathlib.Data.List.DropRight
import NewsFeed.Proofs.Stopping

namespace NewsFeed

/-- Whether a step left the pool alone. -/
def StepTrace.isIdle (trace : StepTrace) : Bool :=
  trace.poolAfter == trace.poolBefore

variable {settings : Settings} {snapshot snapshot' : Snapshot} {step : Step}
  {produced : List Element} {tape tape' : Tape}

/-! ### Returning -/

/-- A block is drawn if its number of inline articles comes out. -/
theorem Block.generate_isSome {scope : Scope}
    (hcount : candidates snapshot scope ≠ [] → (inlineCount settings tape).isSome = true) :
    (generate snapshot scope settings tape).isSome = true := by
  unfold generate
  split
  · rfl
  · rename_i hne
    refine Draw.bind_isSome (hcount (by simpa using hne)) fun count mid _ => ?_
    refine Draw.bind_isSome (settles_pickByWeight _ settings _).isSome fun drawn mid' _ => ?_
    cases drawn with
    | none => rfl
    | some found =>
      exact Draw.bind_isSome (settles_fillSlots _ settings count found.2).isSome fun _ _ _ => rfl

/-- A block is not drawn if its number of inline articles does not come out. -/
theorem Block.generate_eq_none {scope : Scope} (hne : candidates snapshot scope ≠ [])
    (hcount : inlineCount settings tape = none) : generate snapshot scope settings tape = none := by
  unfold generate
  rw [if_neg (by simpa using hne)]
  exact Draw.bind_of_eq_none hcount

namespace Run

/-- The tapes at which a step draws a number of inline articles. -/
inductive StepCount (settings : Settings) (snapshot : Snapshot) (tape : Tape) :
    Step → Tape → Prop where
  | block {step : Step} {scope : Scope} (scope_eq : step.scope? settings = some scope)
      (nonempty : Block.candidates snapshot scope ≠ []) :
      StepCount settings snapshot tape step tape
  | cluster {channel : Channel} {others : List Channel} {mid : Tape}
      (picked : Draw.pick snapshot.channels
        (fun channel => channel.weight snapshot.signals settings) tape =
          some (.ok (channel, others), mid))
      (nonempty : Block.candidates snapshot (.channel channel.name) ≠ []) :
      StepCount settings snapshot tape .cluster mid

/-- The tapes at which a run draws a number of inline articles. -/
inductive CountDraw (snapshot : Snapshot) (settings : Settings) (tape tape' : Tape) : Prop where
  | intro {progress : Progress} {mid : Tape}
      (reaches : Progress.Reaches settings (Progress.start snapshot settings) tape progress mid)
      (going : ¬ progress.HasEnded settings)
      (draw : StepCount settings progress.snapshot mid progress.step tape')

/-- A step returns if its number of inline articles comes out. -/
theorem perform_isSome (iteration : ℕ)
    (hcount : ∀ tape', StepCount settings snapshot tape step tape' →
      (Block.inlineCount settings tape').isSome = true) :
    (perform step iteration snapshot settings tape).isSome = true := by
  -- making a block fails only where the number of inlines is drawn
  have hblock : ∀ scope, step.scope? settings = some scope →
      (Block.generate snapshot scope settings tape).isSome = true := by
    intro scope hscope
    exact Block.generate_isSome fun hne => hcount tape (.block hscope hne)
  cases step with
  | opening => exact Draw.bind_isSome (hblock _ rfl) fun _ _ _ => rfl
  | topNews => exact Draw.bind_isSome (hblock _ rfl) fun _ _ _ => rfl
  | default => exact Draw.bind_isSome (hblock _ rfl) fun _ _ _ => rfl
  | cluster =>
    refine Draw.bind_isSome ?_ fun _ _ _ => rfl
    -- picking the channel reads one word at most
    refine Draw.bind_isSome (Draw.settles_pick tape _ _).isSome fun result mid hpick => ?_
    cases result with
    | error cause => rfl
    | ok picked =>
      refine Draw.bind_isSome
        (Block.generate_isSome fun hne => hcount mid (.cluster hpick hne)) fun made mid' _ => ?_
      dsimp only
      split <;> rfl
  | specialCard =>
    exact Draw.bind_isSome (Card.settles_generate _ _ settings).isSome fun _ _ _ => rfl

/-- A step does not return if a number of inline articles does not come out. -/
theorem perform_eq_none (iteration : ℕ) (hdraw : StepCount settings snapshot tape step tape')
    (hcount : Block.inlineCount settings tape' = none) :
    perform step iteration snapshot settings tape = none := by
  cases hdraw with
  | block scope_eq nonempty =>
    have hblock := Block.generate_eq_none nonempty hcount
    cases step <;> cases scope_eq
    all_goals exact Draw.bind_of_eq_none hblock
  | cluster picked nonempty =>
    refine Draw.bind_of_eq_none ((Draw.bind_of_eq_some picked).trans ?_)
    exact Draw.bind_of_eq_none (Block.generate_eq_none nonempty hcount)

/-- A run goes on from a state that it reaches. -/
theorem Progress.Reaches.finish_eq {start progress : Progress} {mid : Tape}
    (h : Reaches settings start tape progress mid) :
    finish settings (settings.maxIterations.toNat - progress.run.iterations) progress mid =
      finish settings (settings.maxIterations.toNat - start.run.iterations) start tape := by
  induction h with
  | start => rfl
  | @step progress next mid mid' reaches going advance ih =>
    -- a state that is left has an iteration to spend
    obtain ⟨hgoing, hlimit⟩ : progress.isGoing = true ∧
        progress.run.iterations < settings.maxIterations.toNat := by
      simpa [HasEnded] using going
    have hnext : next.run.iterations = progress.run.iterations + 1 := by
      obtain ⟨produced, snapshot', -, rfl⟩ := advance_eq_some.mp advance
      exact record_iterations ..
    have hleft : settings.maxIterations.toNat - progress.run.iterations =
        settings.maxIterations.toNat - next.run.iterations + 1 := by omega
    rw [← ih, hleft, finish, if_pos hgoing]
    exact (Draw.bind_of_eq_some advance).symm

section

variable (hcount : ∀ tape', CountDraw snapshot settings tape tape' →
  (Block.inlineCount settings tape').isSome = true)
include hcount

/-- The rest of a run returns.  The induction is on the iterations left, along the states that the
run reaches. -/
theorem Progress.finish_isSome {progress : Progress} {mid : Tape} (iterations : ℕ)
    (hreaches : Reaches settings (start snapshot settings) tape progress mid)
    (hiterations : progress.run.iterations + iterations = settings.maxIterations.toNat) :
    (finish settings iterations progress mid).isSome = true := by
  induction iterations generalizing progress mid with
  | zero => rfl
  | succ iterations ih =>
    rw [finish]
    split
    · rename_i hgoing
      have hnot : ¬ progress.HasEnded settings := not_hasEnded_of_isGoing hgoing (by omega)
      -- the loop goes on, so a count drawn here is one of those of the run
      have hperform := perform_isSome progress.run.iterations fun tape' hdraw =>
        hcount tape' ⟨hreaches, hnot, hdraw⟩
      refine Draw.bind_isSome (Draw.bind_isSome hperform fun _ _ _ => rfl) ?_
      intro next mid' hadvance
      refine ih (hreaches.step hnot hadvance) ?_
      obtain ⟨produced, snapshot', -, rfl⟩ := advance_eq_some.mp hadvance
      rw [record_iterations]
      omega
    · rfl

/-- A run returns if the numbers of inline articles that it draws come out. -/
theorem make_isSome : (make snapshot settings tape).isSome = true :=
  Progress.finish_isSome hcount _ .start (Nat.zero_add _)

end

/-- A run returns exactly if all the numbers of inline articles that it draws come out. -/
theorem make_eq_none_iff : make snapshot settings tape = none ↔
    ∃ tape', CountDraw snapshot settings tape tape' ∧
      Block.inlineCount settings tape' = none := by
  constructor
  · intro h
    by_contra hall
    have hcount : ∀ tape', CountDraw snapshot settings tape tape' →
        (Block.inlineCount settings tape').isSome = true := fun tape' hdraw =>
      Option.isSome_iff_ne_none.mpr fun hnone => hall ⟨tape', hdraw, hnone⟩
    exact absurd (make_isSome hcount) (by rw [h]; simp)
  · rintro ⟨tape', ⟨hreaches, hgoing, hdraw⟩, hcount⟩
    obtain ⟨hgo, hlimit⟩ : _ ∧ _ := by simpa [Progress.HasEnded] using hgoing
    obtain ⟨left, hleft⟩ := Nat.exists_eq_add_of_lt hlimit
    refine hreaches.finish_eq.symm.trans ?_
    rw [hleft, Nat.add_assoc, Nat.add_sub_cancel_left, Progress.finish, if_pos hgo]
    exact Draw.bind_of_eq_none
      (Draw.bind_of_eq_none (perform_eq_none _ hdraw hcount))

/-! ### Pace -/

/-- How the iterations of a run in the middle, the articles it has taken and its idle steps go
together. -/
structure Progress.Paced (settings : Settings) (progress : Progress) : Prop where
  limit : progress.run.iterations ≤ settings.maxIterations.toNat
  pace : progress.run.iterations ≤ 3 * progress.run.consumed + progress.idle
  /-- The idle steps counted are all those at the end. -/
  idle : (progress.run.steps.rtakeWhile StepTrace.isIdle).length = progress.idle
  /-- Three idle steps in a row are the last three. -/
  streak : ∀ earlier a b c later, progress.run.steps = earlier ++ [a, b, c] ++ later →
    (∀ trace ∈ [a, b, c], trace.isIdle = true) → later = []
  drained : progress.snapshot.articles = [] → progress.idle = 0

namespace Progress

variable {progress last : Progress}

theorem paced_start (snapshot : Snapshot) (settings : Settings) :
    (start snapshot settings).Paced settings where
  limit := Nat.zero_le _
  pace := Nat.zero_le _
  idle := rfl
  streak earlier a b c later hsteps _ := by
    have hlength := congrArg List.length hsteps
    simp [start] at hlength
  drained _ := rfl

/-- Three idle steps at the end are counted as idle. -/
theorem Paced.three_le_idle (h : progress.Paced settings) {earlier : List StepTrace}
    {a b c : StepTrace} (hsteps : progress.run.steps = earlier ++ [a, b, c])
    (hidle : ∀ trace ∈ [a, b, c], trace.isIdle = true) : 3 ≤ progress.idle := by
  have hsplit : earlier ++ [a, b, c] = earlier ++ [a] ++ [b] ++ [c] := by simp
  rw [← h.idle, hsteps, hsplit, List.rtakeWhile_concat_pos _ _ _ (hidle c (by simp)),
    List.rtakeWhile_concat_pos _ _ _ (hidle b (by simp)),
    List.rtakeWhile_concat_pos _ _ _ (hidle a (by simp))]
  simp

/-- A step is recorded as idle exactly if it does not shrink the pool. -/
theorem isIdle_trace_iff (produced : List Element)
    (hle : snapshot'.articles.length ≤ progress.snapshot.articles.length) :
    (progress.trace produced snapshot').isIdle = true ↔
      ¬ snapshot'.articles.length < progress.snapshot.articles.length := by
  rw [StepTrace.isIdle, beq_iff_eq]
  show snapshot'.articles.length = progress.snapshot.articles.length ↔ _
  omega

theorem Paced.record (h : progress.Paced settings) (hgoing : ¬ progress.HasEnded settings)
    (hperformed : Performed settings progress.snapshot progress.step produced snapshot') :
    (progress.record produced snapshot').Paced settings := by
  obtain ⟨hne, hidle, hlimit⟩ := not_hasEnded_iff.mp hgoing
  have hthree : progress.idle < 3 := hidle
  have hle := hperformed.within.articles.length_le
  have htrace := isIdle_trace_iff produced hle
  have hpace := h.pace
  refine ⟨?_, ?_, ?_, ?_, ?_⟩
  · rw [record_iterations]
    omega
  · -- a step that takes an article pays for itself and for the idle steps before it
    rw [record_iterations, record_consumed, record_idle]
    split_ifs <;> omega
  · rw [record_steps, record_idle]
    split_ifs with htook
    · rw [List.rtakeWhile_concat_neg _ _ _ fun hidle => htrace.mp hidle htook]
      rfl
    · rw [List.rtakeWhile_concat_pos _ _ _ (htrace.mpr htook), List.length_append, h.idle]
      rfl
  · intro earlier a b c later hsteps hstreak
    rw [record_steps] at hsteps
    rcases List.eq_nil_or_concat later with hnil | ⟨later', last, rfl⟩
    · exact hnil
    · -- the streak would be over before this step, and then the run would not have gone on
      exfalso
      rw [List.concat_eq_append, ← List.append_assoc] at hsteps
      obtain ⟨hbefore, -⟩ := List.append_inj' hsteps rfl
      obtain rfl := h.streak earlier a b c later' hbefore hstreak
      have hcounted := h.three_le_idle (hbefore.trans (List.append_nil _)) hstreak
      omega
  · intro hnil
    rw [record_snapshot] at hnil
    have hpos := List.length_pos_iff.mpr hne
    rw [record_idle, if_pos (by rw [hnil]; exact hpos)]

theorem Reaches.paced
    (h : Reaches settings (Progress.start snapshot settings) tape last tape') :
    last.Paced settings :=
  h.induct (paced_start snapshot settings) fun _ _ _ ih hgoing hperformed =>
    ih.record hgoing hperformed

/-- The last steps of a run that was idle three times. -/
theorem Tracked.exists_idle (h : last.Tracked) (hidle : last.idle = Step.cycle.length) :
    ∃ earlier a b c, last.run.steps = earlier ++ [a, b, c] ∧
      ∀ trace ∈ [a, b, c], trace.isIdle = true := by
  obtain ⟨earlier, a, b, c, hsteps, hall, -⟩ := h.exists_last hidle
  exact ⟨earlier, a, b, c, hsteps, fun trace hmem => beq_iff_eq.mpr (hall trace hmem)⟩

end Progress

/-! ### Runs -/

/-- A run whose numbers of inline articles come out returns.  Its iterations are bounded by their
limit and by the articles taken, three idle steps in a row can only be its last ones, and it stops
with articles left exactly if it has used up its iterations or was idle three times. -/
theorem make_terminates
    (hcount : ∀ tape', CountDraw snapshot settings tape tape' →
      (Block.inlineCount settings tape').isSome = true) :
    ∃ run last tape', make snapshot settings tape = some (run, tape') ∧
      Progress.Reaches settings (Progress.start snapshot settings) tape last tape' ∧
      run = last.close ∧
      run.iterations ≤ settings.maxIterations.toNat ∧
      run.iterations ≤ 3 * run.consumed + 3 ∧
      (last.snapshot.articles = [] → run.iterations ≤ 3 * run.consumed) ∧
      (∀ earlier a b c later, run.steps = earlier ++ [a, b, c] ++ later →
        (∀ trace ∈ [a, b, c], trace.isIdle = true) → later = []) ∧
      (run.terminatedByBound = true ↔ last.snapshot.articles ≠ []) ∧
      (last.snapshot.articles ≠ [] → run.iterations = settings.maxIterations.toNat ∨
        ∃ earlier a b c, run.steps = earlier ++ [a, b, c] ∧
          ∀ trace ∈ [a, b, c], trace.isIdle = true) := by
  obtain ⟨⟨run, tape'⟩, hmake⟩ := Option.isSome_iff_exists.mp (make_isSome hcount)
  obtain ⟨last, hreaches, hended, rfl⟩ := make_reaches hmake
  -- between two steps that take something there are at most two idle ones
  have hpaced := hreaches.paced
  have hidle : last.idle ≤ 3 := hreaches.tracked.idle_le
  have hpace : last.close.iterations ≤ 3 * last.close.consumed + last.idle := hpaced.pace
  refine ⟨_, last, tape', hmake, hreaches, rfl, hpaced.limit, by omega, ?_, hpaced.streak, ?_, ?_⟩
  · intro hleft
    have hzero := hpaced.drained hleft
    omega
  · show (!last.snapshot.articles.isEmpty) = true ↔ last.snapshot.articles ≠ []
    simp
  · intro hleft
    -- with articles left, three idle steps or the bound have ended the run
    rcases (Progress.hasEnded_iff.mp hended).resolve_left hleft with hstop | hlimit
    · exact .inr (hreaches.tracked.exists_idle (le_antisymm hidle hstop))
    · exact .inl (le_antisymm hpaced.limit hlimit)

theorem make_terminates_varied :
    (∀ tape', CountDraw varied heroesOnly steadyTape tape' →
      (Block.inlineCount heroesOnly tape').isSome = true) ∧
    ∃ run tape', make varied heroesOnly steadyTape = some (run, tape') ∧ run.iterations = 7 ∧
      run.iterations ≤ 3 * run.consumed + 3 ∧
      ∀ earlier a b c later, run.steps = earlier ++ [a, b, c] ++ later →
        (∀ trace ∈ [a, b, c], trace.isIdle = true) → later = [] := by
  obtain ⟨run, tape', h, hiterations, -⟩ := make_varied
  -- a run returns, so all its numbers of inline articles come out
  have hcount : ∀ tape', CountDraw varied heroesOnly steadyTape tape' →
      (Block.inlineCount heroesOnly tape').isSome = true := by
    intro tape' hdraw
    by_contra hnone
    rw [make_eq_none_iff.mpr ⟨tape', hdraw, by simpa using hnone⟩] at h
    cases h
  obtain ⟨run', last, tape'', hmake, -, -, -, hpace, -, hstreak, -⟩ := make_terminates hcount
  obtain ⟨rfl, rfl⟩ := Prod.mk.inj (Option.some.inj (h.symm.trans hmake))
  exact ⟨hcount, run, tape', h, hiterations, hpace, hstreak⟩

end Run

end NewsFeed
