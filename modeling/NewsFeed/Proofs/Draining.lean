/-
A run drains its pool unless the sum of the weights overflows.

Every draw by weight inside a run is from candidates whose articles are, in order, some of those the
run started with (`WeightDraw`).  If the sum over all of them is finite, so is the sum over the
candidates, and the draw succeeds.  Then an opening or default step always takes something, which
keeps the count of idle steps below three (`idleBound`) and makes three times the articles taken
outrun the iterations (`slack`).

* `WeightDraw.succeeds` — no draw by weight inside a run fails;
* `Reaches.draining` — the invariant that idleness and pace obey;
* `make_drains` — what follows for the run returned, and that one is returned.
-/
import NewsFeed.Proofs.Admission
import NewsFeed.Proofs.Returning

namespace NewsFeed

/-! ### Draws that succeed -/

/-- Whether articles can be drawn by weight: each has weight, and the sum does not overflow. -/
structure Drawable (signals : Signals) (settings : Settings) (pool : List Article) : Prop where
  positive : ∀ article ∈ pool, 0.0 < article.weight signals settings
  finite : (Lottery.sum (pool.map fun article => article.weight signals settings)).isFinite = true

theorem Drawable.sublist {signals : Signals} {settings : Settings} {pool pool' : List Article}
    (h : Drawable signals settings pool) (hsub : pool'.Sublist pool) :
    Drawable signals settings pool' where
  positive article hmem := h.positive article (hsub.subset hmem)
  finite := by
    refine Lottery.sum_isFinite_of_sublist (hsub.map _) (fun weight hmem => ?_) h.finite
    obtain ⟨article, harticle, rfl⟩ := List.mem_map.mp hmem
    exact Binary64.le_of_lt (h.positive article harticle)

namespace Block

variable {signals : Signals} {settings : Settings} {snapshot snapshot' : Snapshot} {scope : Scope}
  {eligible drawn others : List Candidate} {picked : Candidate} {tape tape' mid : Tape}

theorem weights_eq (signals : Signals) (settings : Settings) (eligible : List Candidate) :
    weights signals settings eligible =
      (eligible.map Candidate.article).map fun article => article.weight signals settings := by
  rw [weights, List.map_map]
  rfl

/-- Candidates with weight can be drawn from exactly if the sum of their weights is finite. -/
theorem ofWeights_ok_iff (hne : eligible ≠ [])
    (hpos : ∀ article ∈ eligible.map Candidate.article, 0.0 < article.weight signals settings) :
    (∃ lottery, Lottery.ofWeights (weights signals settings eligible) = .ok lottery) ↔
      Drawable signals settings (eligible.map Candidate.article) := by
  have hpos' : ∀ weight ∈ weights signals settings eligible, 0.0 < weight := by
    intro weight hmem
    rw [weights_eq] at hmem
    obtain ⟨article, harticle, rfl⟩ := List.mem_map.mp hmem
    exact hpos article harticle
  rw [Lottery.ofWeights_ok_iff (by simpa [weights] using hne) hpos', weights_eq]
  exact ⟨fun hfinite => ⟨hpos, hfinite⟩, fun hdrawable => hdrawable.finite⟩

/-- A draw by weight from drawable candidates succeeds. -/
theorem pickByWeight_succeeds (hne : eligible ≠ [])
    (h : Drawable signals settings (eligible.map Candidate.article)) (tape : Tape) :
    ∃ picked others tape', pickByWeight signals settings eligible tape =
      some (some (picked, others), tape') := by
  obtain ⟨lottery, hok⟩ := (ofWeights_ok_iff hne h.positive).mpr h
  rcases pickByWeight_cases signals settings eligible tape with
    ⟨cause, hbad, -⟩ | ⟨_, picked, others, tape', -, -, hpick, -⟩
  · rw [hok] at hbad
    cases hbad
  · exact ⟨picked, others, tape', hpick⟩

/-- The draws by weight that filling slots makes: the candidates, and the tape at that point. -/
inductive SlotDraw (signals : Signals) (settings : Settings) :
    ℕ → List Candidate → Tape → List Candidate → Tape → Prop where
  | here {slots : ℕ} {eligible : List Candidate} {tape tape' : Tape} (nonempty : eligible ≠ [])
      (noDiscovery : tryDiscovery signals settings eligible tape = some (none, tape')) :
      SlotDraw signals settings (slots + 1) eligible tape eligible tape'
  | later {slots : ℕ} {eligible others drawn : List Candidate} {tape mid tape' : Tape}
      {picked : Candidate} {isDiscover : Bool} (nonempty : eligible ≠ [])
      (slot : pickInline signals settings eligible tape =
        some (some (picked, isDiscover, others), mid))
      (draw : SlotDraw signals settings slots others mid drawn tape') :
      SlotDraw signals settings (slots + 1) eligible tape drawn tape'

/-- The draws by weight that a block makes. -/
inductive WeightDraw (snapshot : Snapshot) (scope : Scope) (settings : Settings) (tape : Tape) :
    List Candidate → Tape → Prop where
  | hero {count : ℕ} {mid : Tape} (nonempty : candidates snapshot scope ≠ [])
      (target : inlineCount settings tape = some (count, mid)) :
      WeightDraw snapshot scope settings tape (candidates snapshot scope) mid
  | inline {count : ℕ} {mid mid' tape' : Tape} {hero : Candidate} {others drawn : List Candidate}
      (target : inlineCount settings tape = some (count, mid))
      (picked : pickByWeight snapshot.signals settings (candidates snapshot scope) mid =
        some (some (hero, others), mid'))
      (draw : SlotDraw snapshot.signals settings count others mid' drawn tape') :
      WeightDraw snapshot scope settings tape drawn tape'

/-- The slots draw from some of the candidates, and never from none. -/
theorem SlotDraw.sublist {slots : ℕ} (h : SlotDraw signals settings slots eligible tape drawn tape')
    (hnodup : (eligible.map Candidate.place).Nodup) : drawn ≠ [] ∧ drawn.Sublist eligible := by
  induction h with
  | here nonempty noDiscovery => exact ⟨nonempty, List.Sublist.refl _⟩
  | later nonempty slot draw ih =>
    obtain ⟨htakes, -⟩ := takes_of_pickInline hnodup slot
    obtain ⟨hne, hsub⟩ := ih (htakes.nodup hnodup)
    exact ⟨hne, hsub.trans htakes.sublist⟩

theorem candidates_sublist (snapshot : Snapshot) (scope : Scope) :
    ((candidates snapshot scope).map Candidate.article).Sublist snapshot.articles := by
  rw [map_article_candidates]
  exact List.filter_sublist

/-- A block draws from some of the articles of the pool, and never from none. -/
theorem WeightDraw.sublist (h : WeightDraw snapshot scope settings tape drawn tape') :
    drawn ≠ [] ∧ (drawn.map Candidate.article).Sublist snapshot.articles := by
  cases h with
  | hero nonempty target => exact ⟨nonempty, candidates_sublist snapshot scope⟩
  | inline target picked draw =>
    have htakes := takes_of_pickByWeight picked
    obtain ⟨hne, hsub⟩ := draw.sublist (htakes.nodup (nodup_place_candidates snapshot scope))
    exact ⟨hne, ((hsub.trans htakes.sublist).map _).trans (candidates_sublist snapshot scope)⟩

/-- A scope with drawable candidates gives a block. -/
theorem ne_nil_of_drawable {elements : List ArticleElement}
    (h : generate snapshot scope settings tape = some ((elements, snapshot'), tape'))
    (hne : candidates snapshot scope ≠ [])
    (hdrawable : Drawable snapshot.signals settings
      ((candidates snapshot scope).map Candidate.article)) : elements ≠ [] := by
  rcases generate_cases h with
    ⟨-, -, cause, hbad⟩ | ⟨-, hero, others, inlines, slots, mid, -, -, -, rfl, -⟩
  · obtain ⟨lottery, hok⟩ := (ofWeights_ok_iff hne hdrawable.positive).mpr hdrawable
    cases hok.symm.trans hbad
  · exact List.cons_ne_nil _ _

/-- A scope without candidates, or with candidates that cannot be drawn, gives nothing. -/
theorem eq_self_of_not_drawable {elements : List ArticleElement}
    (h : generate snapshot scope settings tape = some ((elements, snapshot'), tape'))
    (hpos : ∀ article ∈ snapshot.articles, 0.0 < article.weight snapshot.signals settings)
    (hnot : candidates snapshot scope = [] ∨ ¬ Drawable snapshot.signals settings
      ((candidates snapshot scope).map Candidate.article)) : snapshot' = snapshot := by
  rcases generate_cases h with
    ⟨-, rfl, -⟩ | ⟨lottery, hero, others, inlines, slots, mid, hok, htakes, -⟩
  · rfl
  · -- a hero has been drawn, so there are candidates, and they are drawable
    have hne : candidates snapshot scope ≠ [] := fun hnil => by
      rw [hnil] at htakes
      cases htakes.perm.length_eq
    have hcandidates : ∀ article ∈ (candidates snapshot scope).map Candidate.article,
        0.0 < article.weight snapshot.signals settings := fun article hmem =>
      hpos article ((candidates_sublist snapshot scope).subset hmem)
    exact absurd ((ofWeights_ok_iff hne hcandidates).mp ⟨lottery, hok⟩) (hnot.resolve_left hne)

theorem filter_admits_everything (publishers : Dict Publisher) (pool : List Article) :
    (pool.filter fun article => Scope.everything.admits publishers article) = pool :=
  List.filter_eq_self.mpr fun _ _ => rfl

theorem candidates_everything_ne_nil (h : snapshot.articles ≠ []) :
    candidates snapshot .everything ≠ [] := by
  intro hnil
  have hmap := map_article_candidates snapshot .everything
  rw [hnil, filter_admits_everything] at hmap
  exact h hmap.symm

end Block

namespace Run

variable {settings : Settings} {snapshot snapshot' : Snapshot} {step : Step}
  {produced : List Element} {drawn : List Candidate} {tape tape' mid mid' : Tape}

/-- The draws by weight of articles that a step makes. -/
inductive StepDraw (settings : Settings) (snapshot : Snapshot) (tape : Tape) :
    Step → List Candidate → Tape → Prop where
  | block {step : Step} {scope : Scope} {drawn : List Candidate} {tape' : Tape}
      (scope_eq : step.scope? settings = some scope)
      (draw : Block.WeightDraw snapshot scope settings tape drawn tape') :
      StepDraw settings snapshot tape step drawn tape'
  | cluster {channel : Channel} {others : List Channel} {drawn : List Candidate} {mid tape' : Tape}
      (picked : Draw.pick snapshot.channels
        (fun channel => channel.weight snapshot.signals settings) tape =
          some (.ok (channel, others), mid))
      (draw : Block.WeightDraw snapshot (.channel channel.name) settings mid drawn tape') :
      StepDraw settings snapshot tape .cluster drawn tape'

/-- The draws by weight of articles that a run makes. -/
inductive WeightDraw (snapshot : Snapshot) (settings : Settings) (tape : Tape)
    (drawn : List Candidate) (tape' : Tape) : Prop where
  | intro {progress : Progress} {mid : Tape}
      (reaches : Progress.Reaches settings (Progress.start snapshot settings) tape progress mid)
      (going : ¬ progress.HasEnded settings)
      (draw : StepDraw settings progress.snapshot mid progress.step drawn tape')

theorem StepDraw.sublist (h : StepDraw settings snapshot tape step drawn tape') :
    drawn ≠ [] ∧ (drawn.map Candidate.article).Sublist snapshot.articles := by
  cases h with
  | block scope_eq draw => exact draw.sublist
  | cluster picked draw => exact draw.sublist

/-- No draw by weight inside a run fails. -/
theorem WeightDraw.succeeds (h : WeightDraw snapshot settings tape drawn tape')
    (hdrawable : Drawable snapshot.signals settings (screened snapshot settings).articles) :
    ∃ picked others tape'', Block.pickByWeight snapshot.signals settings drawn tape' =
      some (some (picked, others), tape'') := by
  obtain ⟨hreaches, -, hdraw⟩ := h
  obtain ⟨hne, hsub⟩ := hdraw.sublist
  have hpool := hreaches.within.articles
  exact Block.pickByWeight_succeeds hne (hdrawable.sublist (hsub.trans hpool)) tape'

/-! ### Idleness and pace -/

/-- How many idle steps can come before a step, if default steps are never idle. -/
def idleBound : Step → ℕ
  | .opening | .topNews | .cluster => 0
  | .specialCard => 1
  | .default => 2

/-- How far the iterations stay behind three times the articles taken, before a step. -/
def slack : Step → ℕ
  | .opening => 0
  | .default => 1
  | .topNews | .specialCard => 2
  | .cluster => 3

/-- What holds in every state of a run that drains its pool. -/
structure Progress.Draining (progress : Progress) : Prop where
  idle : progress.idle ≤ idleBound progress.step
  pace : progress.run.iterations + slack progress.step ≤ 3 * progress.run.consumed
  hero : progress.step = .opening ∧ progress.run.elements = [] ∨
    ∃ article rest, progress.run.elements = .hero article :: rest

theorem draining_start (snapshot : Snapshot) (settings : Settings) :
    (Progress.start snapshot settings).Draining :=
  ⟨le_rfl, le_rfl, .inl ⟨rfl, rfl⟩⟩

/-- A step whose scope has drawable candidates starts with a hero and takes from the pool. -/
theorem perform_takes {scope : Scope} {iteration : ℕ} (hscope : step.scope? settings = some scope)
    (hne : Block.candidates snapshot scope ≠ [])
    (hdrawable : Drawable snapshot.signals settings
      ((Block.candidates snapshot scope).map Candidate.article))
    (h : perform step iteration snapshot settings tape = some ((produced, snapshot'), tape')) :
    snapshot'.articles.length < snapshot.articles.length ∧
      ∃ article rest, produced = .hero article :: rest := by
  obtain ⟨elements, rfl, hgenerate⟩ := perform_block hscope h
  have hmade := Block.generate_made hgenerate
  have helements := Block.ne_nil_of_drawable hgenerate hne hdrawable
  obtain ⟨hero, inlines, rfl, -⟩ := hmade.shape.resolve_left helements
  have hlength := hmade.length_add
  rw [List.length_cons] at hlength
  exact ⟨by omega, hero, _, rfl⟩

/-- An opening or default step takes from a pool of drawable articles. -/
theorem perform_everything_takes {iteration : ℕ} (hscope : step.scope? settings = some .everything)
    (hne : snapshot.articles ≠ [])
    (hdrawable : Drawable snapshot.signals settings snapshot.articles)
    (h : perform step iteration snapshot settings tape = some ((produced, snapshot'), tape')) :
    snapshot'.articles.length < snapshot.articles.length ∧
      ∃ article rest, produced = .hero article :: rest :=
  perform_takes hscope (Block.candidates_everything_ne_nil hne)
    (hdrawable.sublist (Block.candidates_sublist snapshot .everything)) h

namespace Progress

variable {progress last : Progress}

/-- A step keeps idleness and pace within their bounds. -/
theorem Draining.record (h : progress.Draining)
    (hdrawable : Drawable progress.snapshot.signals settings progress.snapshot.articles)
    (hne : progress.snapshot.articles ≠ [])
    (hperform : perform progress.step progress.run.iterations progress.snapshot settings tape =
      some ((produced, snapshot'), tape')) : (progress.record produced snapshot').Draining := by
  obtain ⟨hidle, hpace, hhero⟩ := h
  have hle := (perform_performed hperform).within.articles.length_le
  have htakes : progress.step.scope? settings = some .everything →
      snapshot'.articles.length < progress.snapshot.articles.length ∧
        ∃ article rest, produced = .hero article :: rest := fun hscope =>
    perform_everything_takes hscope hne hdrawable hperform
  refine ⟨?_, ?_, ?_⟩
  · -- only the steps between two default steps may be idle, and each of them raises the bound
    rw [record_idle, record_step]
    split_ifs with hlt
    · exact Nat.zero_le _
    · cases hstep : progress.step <;> rw [hstep] at hidle htakes
      case opening => exact absurd (htakes rfl).1 hlt
      case default => exact absurd (htakes rfl).1 hlt
      case topNews => exact (Nat.succ_le_succ hidle).trans (by decide)
      case cluster => exact Nat.succ_le_succ hidle
      case specialCard => exact Nat.succ_le_succ hidle
  · -- an opening or default step takes an article, which pays for itself and the two steps after it
    rw [record_iterations, record_consumed, record_step]
    cases hstep : progress.step <;> rw [hstep] at hpace htakes <;>
      simp only [slack, Step.next] at hpace ⊢
    case opening =>
      have hlt := (htakes rfl).1
      omega
    case default =>
      have hlt := (htakes rfl).1
      omega
    all_goals omega
  · right
    rw [record_elements]
    rcases hhero with ⟨hstep, hnil⟩ | ⟨article, rest, helements⟩
    · rw [hstep] at htakes
      obtain ⟨-, article, rest, rfl⟩ := htakes rfl
      exact ⟨article, rest, by rw [hnil, List.nil_append]⟩
    · exact ⟨article, rest ++ produced, by rw [helements, List.cons_append]⟩

theorem ne_nil_of_going (h : ¬ progress.HasEnded settings) : progress.snapshot.articles ≠ [] :=
  (not_hasEnded_iff.mp h).1

/-- Idleness and pace stay within their bounds along a run of drawable articles. -/
theorem Reaches.draining
    (h : Reaches settings (Progress.start snapshot settings) tape last tape')
    (hdrawable : Drawable snapshot.signals settings (screened snapshot settings).articles) :
    last.Draining := by
  refine h.induct_perform (draining_start snapshot settings) ?_
  intro progress produced snapshot' mid mid' hreaches hdraining hgoing hperform
  have hwithin : progress.snapshot.Within (screened snapshot settings) := hreaches.within
  refine hdraining.record ?_ (ne_nil_of_going hgoing) hperform
  rw [hwithin.signals]
  exact hdrawable.sublist hwithin.articles

/-- A run of drawable articles ends with an empty pool or with its iterations used up. -/
theorem Draining.hasEnded (h : last.Draining) (hended : last.HasEnded settings) :
    last.snapshot.articles = [] ∨ settings.maxIterations.toNat ≤ last.run.iterations := by
  have hidle : last.idle < Step.cycle.length := by
    refine Nat.lt_succ_of_le (h.idle.trans ?_)
    cases last.step <;> decide
  exact (hasEnded_iff.mp hended).imp_right fun hlate => hlate.resolve_left (not_le.mpr hidle)

end Progress

/-! ### Runs -/

/-- Articles of positive weight whose sum does not overflow are all shown: no draw by weight fails,
a run allowed three iterations for each article starts with a hero and shows them all, and a run
returns on every tape on which the numbers of inline articles can be drawn. -/
theorem make_drains (tape : Tape)
    (hne : (snapshot.articles.filter fun article =>
      0.0 < article.weight snapshot.signals settings) ≠ [])
    (hfinite : (Lottery.sum ((snapshot.articles.filter fun article =>
      0.0 < article.weight snapshot.signals settings).map fun article =>
        article.weight snapshot.signals settings)).isFinite = true) :
    let pool := snapshot.articles.filter fun article =>
      0.0 < article.weight snapshot.signals settings
    (∀ drawn tape', WeightDraw snapshot settings tape drawn tape' →
      ∃ picked others tape'', Block.pickByWeight snapshot.signals settings drawn tape' =
        some (some (picked, others), tape'')) ∧
    (3 * pool.length ≤ settings.maxIterations.toNat →
      ∀ run tape', make snapshot settings tape = some (run, tape') →
        (∃ article rest, run.elements = .hero article :: rest) ∧
        run.consumed = pool.length ∧ run.terminatedByBound = false) ∧
    ((∀ tape', tape.Along tape' → (Block.inlineCount settings tape').isSome = true) →
      (make snapshot settings tape).isSome = true) := by
  intro pool
  have hdrawable : Drawable snapshot.signals settings pool :=
    ⟨fun article hmem => decide_eq_true_eq.mp (List.mem_filter.mp hmem).2, hfinite⟩
  refine ⟨fun drawn tape' hdraw => hdraw.succeeds hdrawable, fun hlimit run tape' hmake => ?_,
    fun hcount => ?_⟩
  · obtain ⟨last, hreaches, hended, rfl⟩ := make_reaches hmake
    have hdraining := hreaches.draining hdrawable
    have hconsumed := hreaches.conserved.consumed
    have hlength : (last.run.elements.flatMap Element.articles ++ last.snapshot.articles).length =
        pool.length := hreaches.conserved.perm.length_eq
    rw [List.length_append, ← hconsumed] at hlength
    have hpace := hdraining.pace
    -- a run that used up its iterations has, by its pace, taken everything as well
    have hempty : last.snapshot.articles.length = 0 := by
      rcases hdraining.hasEnded hended with hnil | hused
      · rw [hnil]
        rfl
      · omega
    have hall : last.run.consumed = pool.length := by omega
    refine ⟨?_, hall, ?_⟩
    · refine hdraining.hero.resolve_left fun ⟨_, hnil⟩ => ?_
      rw [hnil] at hconsumed
      have hpos : 0 < pool.length := List.length_pos_iff.mpr hne
      have hzero : last.run.consumed = 0 := hconsumed
      omega
    · show (!last.snapshot.articles.isEmpty) = false
      rw [List.length_eq_zero_iff.mp hempty]
      rfl
  · obtain ⟨result, tape', hresult, -⟩ :=
      make_settles (Block.settles_inlineCount hcount) snapshot (Tape.Along.refl tape)
    exact Option.isSome_iff_exists.mpr ⟨_, hresult⟩

theorem make_drains_varied :
    ∃ run tape', make varied heroesOnly steadyTape = some (run, tape') ∧
      (∃ article rest, run.elements = .hero article :: rest) ∧
      run.consumed = 5 ∧ run.terminatedByBound = false := by
  obtain ⟨run, tape', h, -⟩ := make_varied
  obtain ⟨-, hdrains, -⟩ := @make_drains heroesOnly varied steadyTape
    (by rw [pool_varied]; decide) (by rw [pool_varied]; decide +kernel)
  rw [pool_varied] at hdrains
  exact ⟨run, tape', h, hdrains (by decide) run tape' h⟩

end Run

end NewsFeed
