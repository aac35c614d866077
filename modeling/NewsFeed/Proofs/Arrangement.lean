/-
How the parts of a feed follow one another.

Nothing in a run looks at the elements before the ones it adds.  That a feed starts with a hero, and
that no two cards stand side by side, both come from the rule that three idle steps in a row end a
run.  The first three steps make blocks, so nothing else can come first; and a card step is idle
itself, so the default or the cluster step before the next one has to take an article
(`cardIdle`).

* `Batch.groups` — what a step makes is a block, a cluster, a card or nothing;
* `Batch.taken_or_kept` — a step that takes articles ends in an element that carries one;
* `Reaches.arranged` — the invariant that ties the last element to the count of idle steps;
* `make_arranges` — what follows for the run returned.
-/
import NewsFeed.Proofs.Accounting
import NewsFeed.Proofs.Pacing

namespace NewsFeed

/-! ### Elements -/

namespace Element

/-- The elements that belong together: a block, a cluster or a card. -/
inductive Group : List Element → Prop where
  | block (hero : Article) (inlines : List (Article × Bool)) : Group (block hero inlines)
  | cluster (kind : ClusterType) (elements : List ArticleElement) :
      Group [.cluster kind elements]
  | card (element : Element) (special : element.isSpecialCard = true) : Group [element]

/-- Whether one of two neighbours carries an article. -/
def CanMeet (element element' : Element) : Prop :=
  element.articles ≠ [] ∨ element'.articles ≠ []

theorem articles_of_isSpecialCard {element : Element} (h : element.isSpecialCard = true) :
    element.articles = [] := by
  cases element <;> first | rfl | cases h

/-- Between two elements without articles stands one with an article. -/
theorem exists_between {elements before between after : List Element} {first second : Element}
    (h : elements.IsChain CanMeet)
    (hsplit : elements = before ++ [first] ++ between ++ [second] ++ after)
    (hfirst : first.articles = []) (hsecond : second.articles = []) :
    ∃ element ∈ between, element.articles ≠ [] := by
  -- what stands before the first of the two does not matter
  have hchain : (first :: (between ++ second :: after)).IsChain CanMeet := by
    rw [hsplit] at h
    simp only [List.append_assoc, List.cons_append] at h
    exact h.right_of_append
  cases between with
  | nil =>
    exfalso
    rcases (List.isChain_cons_cons.mp hchain).1 with h | h
    · exact h hfirst
    · exact h hsecond
  | cons element rest =>
    have hmeet := (List.isChain_cons_cons.mp hchain).1
    exact ⟨element, List.mem_cons_self, hmeet.resolve_left fun h => h hfirst⟩

/-- Elements that all carry articles can stand behind anything. -/
theorem isChain_of_carrying {elements : List Element}
    (h : ∀ element ∈ elements, element.articles ≠ []) : elements.IsChain CanMeet := by
  induction elements with
  | nil => exact List.isChain_nil
  | cons element rest ih =>
    refine List.isChain_cons.mpr ⟨fun next hnext => .inl (h element List.mem_cons_self), ?_⟩
    exact ih fun next hmem => h next (List.mem_cons_of_mem _ hmem)

theorem articles_ne_nil_of_mem_block {hero : Article} {inlines : List (Article × Bool)}
    {element : Element} (h : element ∈ block hero inlines) : element.articles ≠ [] := by
  rcases List.mem_cons.mp h with rfl | hmem
  · simp [articles]
  · obtain ⟨inline, -, rfl⟩ := List.mem_map.mp hmem
    simp [articles]

end Element

/-! ### Steps -/

namespace Batch

variable {step : Step} {before after : ℕ} {produced : List Element}

theorem groups (h : Batch step before after produced) :
    ∃ groups : List (List Element), produced = groups.flatten ∧
      ∀ group ∈ groups, Element.Group group := by
  cases h with
  | nothing kept => exact ⟨[], rfl, by simp⟩
  | block hero inlines place taken =>
    exact ⟨[Element.block hero inlines], by simp, by simpa using .block hero inlines⟩
  | cluster kind elements place nonempty taken =>
    exact ⟨[[.cluster kind elements]], by simp, by simpa using .cluster kind elements⟩
  | card element place special kept =>
    exact ⟨[[element]], by simp, by simpa using .card element special⟩

/-- A step takes articles and adds elements that carry some, or takes none and adds at most a
card. -/
theorem taken_or_kept (h : Batch step before after produced) :
    after < before ∧ produced ≠ [] ∧ (∀ element ∈ produced, element.articles ≠ []) ∨
    after = before ∧ produced = [] ∨
    after = before ∧ step = .specialCard ∧ ∃ card, produced = [card] := by
  cases h with
  | nothing kept => exact .inr (.inl ⟨kept, rfl⟩)
  | block hero inlines place taken =>
    refine .inl ⟨by omega, by simp [Element.block], fun element hmem => ?_⟩
    exact Element.articles_ne_nil_of_mem_block hmem
  | cluster kind elements place nonempty taken =>
    have hpos := List.length_pos_iff.mpr nonempty
    refine .inl ⟨by omega, by simp, fun element hmem => ?_⟩
    rw [List.mem_singleton.mp hmem]
    simpa [Element.articles] using nonempty
  | card element place special kept => exact .inr (.inr ⟨kept, place, element, rfl⟩)

/-- A step that makes blocks starts with a hero. -/
theorem exists_hero (h : Batch step before after produced)
    (hplace : step ≠ .cluster ∧ step ≠ .specialCard) (hne : produced ≠ []) :
    ∃ article rest, produced = .hero article :: rest := by
  cases h with
  | nothing kept => exact absurd rfl hne
  | block hero inlines place taken => exact ⟨hero, _, rfl⟩
  | cluster kind elements place nonempty taken => exact absurd place hplace.1
  | card element place special kept => exact absurd place hplace.2

/-- What a step makes can stand behind a feed, unless it is a card behind another one. -/
theorem isChain_append {elements : List Element} (h : Batch step before after produced)
    (helements : elements.IsChain Element.CanMeet)
    (hlast : step = .specialCard → ∀ element ∈ elements.getLast?, element.articles ≠ []) :
    (elements ++ produced).IsChain Element.CanMeet := by
  rcases h.taken_or_kept with ⟨-, -, hcarry⟩ | ⟨-, rfl⟩ | ⟨-, hstep, card, rfl⟩
  · refine helements.append (Element.isChain_of_carrying hcarry) fun _ _ next hnext => ?_
    exact .inr (hcarry next (List.mem_of_mem_head? hnext))
  · rwa [List.append_nil]
  · refine helements.append (List.isChain_singleton _) fun element hmem _ _ => ?_
    exact .inl (hlast hstep element hmem)

end Batch

namespace Run

variable {settings : Settings} {snapshot snapshot' : Snapshot} {produced : List Element}
  {tape tape' : Tape}

/-! ### States of a run -/

/-- How many idle steps there have been before a step at least, if no article was added since the
last card. -/
def cardIdle : Step → ℕ
  | .opening | .topNews | .default => 1
  | .cluster => 2
  | .specialCard => 3

theorem cardIdle_next_le (step : Step) : cardIdle step.next ≤ cardIdle step + 1 := by
  cases step <;> decide

/-- How the elements of a run in the middle follow one another. -/
structure Progress.Arranged (progress : Progress) : Prop where
  groups : ∃ groups : List (List Element), progress.run.elements = groups.flatten ∧
    ∀ group ∈ groups, Element.Group group
  meet : progress.run.elements.IsChain Element.CanMeet
  /-- After a card the steps have been idle. -/
  idle : ∀ element ∈ progress.run.elements.getLast?, element.articles = [] →
    cardIdle progress.step ≤ progress.idle
  hero : progress.run.elements = [] ∧ progress.idle = progress.run.iterations ∨
    ∃ article rest, progress.run.elements = .hero article :: rest

namespace Progress

variable {progress last : Progress}

theorem arranged_start (snapshot : Snapshot) (settings : Settings) :
    (start snapshot settings).Arranged where
  groups := ⟨[], rfl, by simp⟩
  meet := List.isChain_nil
  idle _ hmem := nomatch hmem
  hero := .inl ⟨rfl, rfl⟩

/-- The first three steps make blocks. -/
theorem Tracked.makes_block (h : progress.Tracked) (hle : progress.run.iterations ≤ 2) :
    progress.step ≠ .cluster ∧ progress.step ≠ .specialCard := by
  rw [h.step]
  obtain hzero | hone | htwo : progress.run.iterations = 0 ∨ progress.run.iterations = 1 ∨
    progress.run.iterations = 2 := by omega
  · rw [hzero]
    decide
  · rw [hone]
    decide
  · rw [htwo]
    decide

/-- A run that goes on does not add a card to a card. -/
theorem Arranged.carries_of_specialCard (h : progress.Arranged)
    (hidle : progress.idle < Step.cycle.length) (hstep : progress.step = .specialCard) :
    ∀ element ∈ progress.run.elements.getLast?, element.articles ≠ [] := by
  intro element hlast hnil
  have hcard := h.idle element hlast hnil
  rw [hstep] at hcard
  exact absurd hcard (not_le.mpr hidle)

/-- Behind a card the steps stay idle, one more with each step. -/
theorem Arranged.cardIdle_le_record (h : progress.Arranged)
    (hbatch : Batch progress.step progress.snapshot.articles.length snapshot'.articles.length
      produced) :
    ∀ element ∈ (progress.record produced snapshot').run.elements.getLast?,
      element.articles = [] →
        cardIdle (progress.record produced snapshot').step ≤
          (progress.record produced snapshot').idle := by
  intro element hlast hnil
  rw [record_elements] at hlast
  rw [record_step, record_idle]
  rcases hbatch.taken_or_kept with ⟨-, hne, hcarry⟩ | ⟨hkept, rfl⟩ | ⟨hkept, hstep, card, rfl⟩
  · -- a step that took something leaves an element with articles at the end
    rw [List.getLast?_append_of_ne_nil _ hne] at hlast
    exact absurd hnil (hcarry element (List.mem_of_getLast? hlast))
  · -- an idle step without an element leaves the old end, one step later
    rw [List.append_nil] at hlast
    rw [if_neg (by omega)]
    exact (cardIdle_next_le _).trans (Nat.succ_le_succ (h.idle element hlast hnil))
  · -- a card comes at its step, after which the count starts
    rw [if_neg (by omega), hstep]
    exact Nat.succ_le_succ (Nat.zero_le _)

theorem Arranged.record (h : progress.Arranged) (htracked : progress.Tracked)
    (hgoing : ¬ progress.HasEnded settings)
    (hperform : perform progress.step progress.run.iterations progress.snapshot settings tape =
      some ((produced, snapshot'), tape')) :
    (progress.record produced snapshot').Arranged := by
  have hbatch := perform_batch hperform
  have hidle : progress.idle < Step.cycle.length := (not_hasEnded_iff.mp hgoing).2.1
  refine ⟨?_, hbatch.isChain_append h.meet (h.carries_of_specialCard hidle),
    h.cardIdle_le_record hbatch, ?_⟩
  · obtain ⟨groups, hgroups, hall⟩ := h.groups
    obtain ⟨groups', hgroups', hall'⟩ := hbatch.groups
    refine ⟨groups ++ groups', ?_, ?_⟩
    · rw [record_elements, hgroups, hgroups', List.flatten_append]
    · intro group hmem
      exact (List.mem_append.mp hmem).elim (hall group) (hall' group)
  · rw [record_elements, record_idle, record_iterations]
    rcases h.hero with ⟨hnil, hcount⟩ | ⟨article, rest, helements⟩
    · -- with nothing in the feed yet, every step so far was idle, so this is one of the first three
      have hthree : progress.idle < 3 := hidle
      have hplace := htracked.makes_block (by omega)
      rw [hnil, List.nil_append]
      rcases hbatch.taken_or_kept with ⟨-, hne, -⟩ | ⟨hkept, rfl⟩ | ⟨-, hstep, -⟩
      · exact .inr (hbatch.exists_hero hplace hne)
      · exact .inl ⟨rfl, by rw [if_neg (by omega), hcount]⟩
      · exact absurd hstep hplace.2
    · exact .inr ⟨article, rest ++ produced, by rw [helements, List.cons_append]⟩

theorem Reaches.arranged
    (h : Reaches settings (Progress.start snapshot settings) tape last tape') :
    last.Arranged :=
  h.induct_perform (arranged_start snapshot settings)
    fun _ _ _ _ _ hreaches ih hgoing hperform => ih.record hreaches.tracked hgoing hperform

/-- A run that drained its pool did so in its last step. -/
theorem Arranged.carries_of_drained (h : last.Arranged) (hidle : last.idle = 0)
    {element : Element} (hlast : element ∈ last.run.elements.getLast?) : element.articles ≠ [] := by
  intro hnil
  have hcard := h.idle element hlast hnil
  have hpos : 0 < cardIdle last.step := by cases last.step <;> decide
  omega

end Progress

/-! ### Runs -/

/-- A feed is made of blocks, clusters and special cards and starts with a hero.  Between two special
cards stands an element with an article, and if the pool was drained the last element is no special
card. -/
theorem make_arranges {run : Run} (h : make snapshot settings tape = some (run, tape')) :
    (∃ groups : List (List Element), run.elements = groups.flatten ∧
      ∀ group ∈ groups, Element.Group group) ∧
    (run.elements ≠ [] → ∃ article rest, run.elements = .hero article :: rest) ∧
    (∀ before first between second after,
      run.elements = before ++ [first] ++ between ++ [second] ++ after →
      first.isSpecialCard = true → second.isSpecialCard = true →
        ∃ element ∈ between, element.articles ≠ []) ∧
    (run.terminatedByBound = false →
      ∀ element ∈ run.elements.getLast?, element.isSpecialCard = false) := by
  obtain ⟨last, hreaches, -, rfl⟩ := make_reaches h
  have harranged := hreaches.arranged
  refine ⟨harranged.groups, ?_, ?_, ?_⟩
  · intro hne
    exact harranged.hero.resolve_left fun hnone => hne hnone.1
  · intro before first between second after hsplit hfirst hsecond
    exact Element.exists_between harranged.meet hsplit (Element.articles_of_isSpecialCard hfirst)
      (Element.articles_of_isSpecialCard hsecond)
  · intro hdrained element hlast
    have hnil : last.snapshot.articles = [] := by
      have hempty : (!last.snapshot.articles.isEmpty) = false := hdrained
      simpa using hempty
    -- a card at the end would mean an idle step after the pool was empty
    have hcarries := harranged.carries_of_drained (hreaches.paced.drained hnil) hlast
    by_contra hspecial
    exact hcarries (Element.articles_of_isSpecialCard (by simpa using hspecial))

theorem make_arranges_varied :
    ∃ run tape', make varied heroesOnly steadyTape = some (run, tape') ∧
      (∃ article rest, run.elements = .hero article :: rest) ∧
      ∀ element ∈ run.elements.getLast?, element.isSpecialCard = false := by
  obtain ⟨run, tape', h, -, -, -, hlength, hdrained⟩ := make_varied
  obtain ⟨-, hhero, -, hlast⟩ := make_arranges h
  have hne : run.elements ≠ [] := List.ne_nil_of_length_eq_add_one hlength
  exact ⟨run, tape', h, hhero hne, hlast hdrained⟩

end Run

end NewsFeed
