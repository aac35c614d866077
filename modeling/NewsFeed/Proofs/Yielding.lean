/-
A feed is not empty.

Articles of positive weight are no promise of a feed: a draw by weight fails if the weights
overflow together, and a step whose draw failed makes nothing.  A run that has taken nothing has
done idle steps only, and before it may do a fourth step the opening step has seen every article
and the top news step every headline.  So a feed shows something if the opening step can draw, or
if the top news step can draw and the run is allowed to come to it.

* `Reaches.iterations_eq_zero` — where the opening step can draw, a run has taken something after
  its first step;
* `Reaches.iterations_le_one` — where the top news step can draw, after its second;
* `make_yields` — what follows for the run returned, and that one is returned.
-/
import NewsFeed.Proofs.Pacing

namespace NewsFeed.Run

variable {settings : Settings} {snapshot : Snapshot} {tape tape' : Tape}

/-! ### Runs that have taken nothing -/

namespace Progress

variable {last : Progress}

theorem Reaches.iterations_le_idle
    (h : Reaches settings (Progress.start snapshot settings) tape last tape')
    (hnone : last.run.consumed = 0) : last.run.iterations ≤ last.idle := by
  have hpace := h.paced.pace
  omega

/-- A run that has taken nothing from articles that can be drawn together has not begun. -/
theorem Reaches.iterations_eq_zero
    (h : Reaches settings (Progress.start snapshot settings) tape last tape')
    (hnone : last.run.consumed = 0)
    (hdrawable : Drawable snapshot.signals settings (screened snapshot settings).articles) :
    last.run.iterations = 0 := by
  have hpace := (h.draining hdrawable).pace
  omega

/-- A run that has taken nothing although there are top news to draw has not come to its second
step. -/
theorem Reaches.iterations_le_one
    (h : Reaches settings (Progress.start snapshot settings) tape last tape')
    (hnone : last.run.consumed = 0)
    (hne : topNews snapshot settings (screened snapshot settings).articles ≠ [])
    (hnews : Drawable snapshot.signals settings
      (topNews snapshot settings (screened snapshot settings).articles)) :
    last.run.iterations ≤ 1 := by
  have hidle := h.iterations_le_idle hnone
  by_cases hdrawable : Drawable snapshot.signals settings (screened snapshot settings).articles
  · exact (h.iterations_eq_zero hnone hdrawable).trans_le (Nat.zero_le 1)
  · -- after its second step it would be ahead of its idleness, so not every step was idle
    refine (h.idle_add_two_le hdrawable hne hnews).resolve_right fun hahead => ?_
    omega

/-- A run that ends with nothing taken has used up its iterations or was idle three times, if there
was something to take. -/
theorem Reaches.three_le_or_limit_le
    (h : Reaches settings (Progress.start snapshot settings) tape last tape')
    (hended : last.HasEnded settings) (hnone : last.run.consumed = 0)
    (hne : (screened snapshot settings).articles ≠ []) :
    3 ≤ last.run.iterations ∨ settings.maxIterations.toNat ≤ last.run.iterations := by
  have hlength := h.conserved.perm.length_eq
  rw [List.length_append, ← h.conserved.consumed, hnone, Nat.zero_add] at hlength
  have hleft : last.snapshot.articles ≠ [] := by
    rw [← List.length_pos_iff, hlength]
    exact List.length_pos_iff.mpr hne
  refine ((hasEnded_iff.mp hended).resolve_left hleft).imp_left fun hidle => ?_
  exact hidle.trans h.tracked.idle_le_iterations

end Progress

/-! ### Runs -/

/-- A pool with an article of positive weight yields a feed with an article under settings that pass
their check, provided that the weights of all such articles do not overflow together, or that those
of the top news among them do not and the run may do a second step.  A run returns if its numbers of
inline articles come out. -/
theorem make_yields (hcheck : settings.check = .ok ())
    (hpool : ∃ article ∈ snapshot.articles, 0.0 < article.weight snapshot.signals settings)
    (hdraw :
      let pool := (screened snapshot settings).articles
      (weightSum snapshot.signals settings pool).isFinite = true ∨
        1 < settings.maxIterations.toNat ∧ topNews snapshot settings pool ≠ [] ∧
          (weightSum snapshot.signals settings (topNews snapshot settings pool)).isFinite = true) :
    (∀ run tape', make snapshot settings tape = some (run, tape') → run.articles ≠ []) ∧
    ((∀ tape', CountDraw snapshot settings tape tape' →
      (Block.inlineCount settings tape').isSome = true) →
        (make snapshot settings tape).isSome = true) := by
  refine ⟨fun run tape' hmake hnil => ?_, make_isSome⟩
  obtain ⟨last, hreaches, hended, rfl⟩ := make_reaches hmake
  have hnone : last.run.consumed = 0 :=
    hreaches.conserved.consumed.trans (congrArg List.length hnil)
  have hne : (screened snapshot settings).articles ≠ [] := by
    obtain ⟨article, hmem, hweight⟩ := hpool
    exact List.ne_nil_of_mem (List.mem_filter.mpr ⟨hmem, decide_eq_true hweight⟩)
  have hlimit : settings.maxIterations.toNat ≠ 0 := by
    obtain ⟨-, -, -, -, hlimit⟩ := Settings.check_eq_ok_iff.mp hcheck
    exact fun hzero => hlimit (UInt64.toNat_inj.mp hzero)
  -- the run is over, but it has come no further than its first two steps
  have hover := hreaches.three_le_or_limit_le hended hnone hne
  rcases hdraw with hfinite | ⟨hsecond, hnews, hfinite⟩
  · have hzero := hreaches.iterations_eq_zero hnone
      ⟨Progress.screened_positive snapshot settings, hfinite⟩
    omega
  · have hone := hreaches.iterations_le_one hnone hnews
      ⟨Progress.topNews_positive snapshot settings, hfinite⟩
    omega

/-- Two articles whose weights overflow together, and nothing else to draw. -/
def heavyPair : Snapshot where
  articles := [⟨"a", "p", "u", 0.0, none⟩, ⟨"b", "p", "v", 0.0, none⟩]
  signals := Dict.ofList [("u", heavySignal), ("v", heavySignal)]

/-- The same two articles next to a headline. -/
def headlined : Snapshot where
  publishers := Dict.ofList
    [("news", ⟨"news", "News", "", [⟨"en_US", ["Top News"]⟩], .notModified⟩)]
  articles := ⟨"headline", "news", "headline", 0.0, none⟩ :: heavyPair.articles
  signals := Dict.ofList [("headline", { heavySignal with popRecency := 1.0 }),
    ("u", heavySignal), ("v", heavySignal)]

theorem make_yields_headlined :
    ∃ run tape', make headlined {} steadyTape = some (run, tape') ∧ run.articles ≠ [] := by
  have hmake : (make headlined {} steadyTape).isSome = true := by decide +kernel
  obtain ⟨⟨run, tape'⟩, h⟩ := Option.isSome_iff_exists.mp hmake
  obtain ⟨hyields, -⟩ := @make_yields {} headlined steadyTape (by decide +kernel)
    ⟨_, List.mem_cons_self, by decide +kernel⟩
    (.inr ⟨by decide, by decide +kernel, by decide +kernel⟩)
  exact ⟨run, tape', h, hyields run tape' h⟩

/-- Nothing is shown of two articles that overflow together, and a headline next to them comes too
late if the opening step is the only one. -/
theorem make_heavyPair_shows_nothing :
    ((∃ article ∈ heavyPair.articles, 0.0 < article.weight heavyPair.signals {}) ∧
      ({} : Settings).check = .ok () ∧
      ∃ run tape', make heavyPair {} steadyTape = some (run, tape') ∧ run.articles = []) ∧
    ((∃ article ∈ headlined.articles,
        0.0 < article.weight headlined.signals { maxIterations := 1 }) ∧
      ({ maxIterations := 1 } : Settings).check = .ok () ∧
      ∃ run tape', make headlined { maxIterations := 1 } steadyTape = some (run, tape') ∧
        run.articles = []) := by
  have hpair : (make heavyPair {} steadyTape).map (·.1.articles) = some [] := by decide +kernel
  have hheadlined : (make headlined { maxIterations := 1 } steadyTape).map (·.1.articles) =
      some [] := by decide +kernel
  obtain ⟨⟨run, tape'⟩, h, hnil⟩ := Option.map_eq_some_iff.mp hpair
  obtain ⟨⟨run', tape''⟩, h', hnil'⟩ := Option.map_eq_some_iff.mp hheadlined
  exact ⟨⟨⟨_, List.mem_cons_self, by decide +kernel⟩, by decide +kernel, run, tape', h, hnil⟩,
    ⟨_, List.mem_cons_self, by decide +kernel⟩, by decide +kernel, run', tape'', h', hnil'⟩

end NewsFeed.Run
