/-
Runs: what one step does, and which states a run goes through.

A step is described without the tape (`Performed`): a block of the step's scope, a cluster of a
channel, a card, or nothing.  A run reaches one state after the other (`Reaches`) until it has
ended, and `make_reaches` says that the run returned is the last state, closed.  A property that
every step keeps holds in every state reached (`Reaches.induct`).

* `perform_cases` — what a step draws: a block, a cluster or a card;
* `perform_performed` — what that does to the snapshot;
* `Performed.perm` — a step moves articles from the pool into elements and does nothing else to
  them;
* `Reaches.hasParts` — the elements of a run, cut into the parts that its steps made.
-/
import NewsFeed.Proofs.Blocks
import NewsFeed.Run

namespace NewsFeed

/-- Whether a snapshot differs from an earlier one only in what a run uses up. -/
structure Snapshot.Within (snapshot earlier : Snapshot) : Prop where
  publishers : snapshot.publishers = earlier.publishers
  signals : snapshot.signals = earlier.signals
  channels : snapshot.channels = earlier.channels
  articles : snapshot.articles.Sublist earlier.articles

theorem Snapshot.Within.refl (snapshot : Snapshot) : snapshot.Within snapshot :=
  ⟨rfl, rfl, rfl, List.Sublist.refl _⟩

theorem Snapshot.Within.trans {snapshot snapshot' snapshot'' : Snapshot}
    (h : snapshot.Within snapshot') (h' : snapshot'.Within snapshot'') :
    snapshot.Within snapshot'' :=
  ⟨h.publishers.trans h'.publishers, h.signals.trans h'.signals, h.channels.trans h'.channels,
    h.articles.trans h'.articles⟩

/-- The scope of the block that a step makes, if it makes one. -/
def Step.scope? (settings : Settings) : Step → Option Scope
  | .opening | .default => some .everything
  | .topNews => some (.channel settings.topNewsChannel)
  | .cluster | .specialCard => none

@[simp] theorem Element.articles_ofArticleElement (element : ArticleElement) :
    (Element.ofArticleElement element).articles = [element.article] := by
  cases element <;> rfl

namespace Run

/-! ### Steps -/

/-- What a step can do: the elements it makes and what it leaves of the snapshot. -/
inductive Performed (settings : Settings) (snapshot : Snapshot) :
    Step → List Element → Snapshot → Prop where
  | block {step : Step} {scope : Scope} {elements : List ArticleElement} {snapshot' : Snapshot}
      (scope_eq : step.scope? settings = some scope)
      (made : Block.Made snapshot scope elements snapshot') :
      Performed settings snapshot step (elements.map Element.ofArticleElement) snapshot'
  | cluster {channel : Channel} {elements : List ArticleElement} {snapshot' : Snapshot}
      (mem : channel ∈ snapshot.channels) (weight : 0.0 < channel.weight snapshot.signals settings)
      (made : Block.Made snapshot (.channel channel.name) elements snapshot')
      (nonempty : elements ≠ []) :
      Performed settings snapshot .cluster [.cluster (.channel channel.name) elements] snapshot'
  | noCluster : Performed settings snapshot .cluster [] snapshot
  | card {produced : List Element} (suggested : List Publisher)
      (special : ∀ element ∈ produced, element.isSpecialCard = true) :
      Performed settings snapshot .specialCard produced { snapshot with suggested }

variable {settings : Settings} {snapshot snapshot' : Snapshot} {step : Step}
  {produced : List Element} {tape tape' : Tape}

/-- A cluster is a block that is not empty. -/
theorem cluster_cases {channel : String} {element : Option Element}
    (h : Cluster.generate snapshot channel settings tape = some ((element, snapshot'), tape')) :
    ∃ elements,
      Block.generate snapshot (.channel channel) settings tape =
        some ((elements, snapshot'), tape') ∧
      (elements = [] ∧ element = none ∨
        elements ≠ [] ∧ element = some (.cluster (.channel channel) elements)) := by
  obtain ⟨⟨elements, snapshot''⟩, mid, hblock, hrest⟩ := Draw.bind_eq_some.mp h
  dsimp only at hrest
  split at hrest
  · next hempty =>
    cases hrest
    exact ⟨elements, hblock, .inl ⟨List.isEmpty_iff.mp hempty, rfl⟩⟩
  · next hne =>
    cases hrest
    exact ⟨elements, hblock, .inr ⟨fun hnil => hne (List.isEmpty_iff.mpr hnil), rfl⟩⟩

/-- All that the making of a cluster can do: nothing, or a block of a channel that has a weight. -/
theorem randomCluster_cases {element : Option Element}
    (h : Cluster.generateRandom snapshot settings tape = some ((element, snapshot'), tape')) :
    element = none ∧ snapshot' = snapshot ∨
    ∃ channel ∈ snapshot.channels, 0.0 < channel.weight snapshot.signals settings ∧
      ∃ elements mid, element = some (.cluster (.channel channel.name) elements) ∧ elements ≠ [] ∧
        Block.generate snapshot (.channel channel.name) settings mid =
          some ((elements, snapshot'), tape') := by
  obtain ⟨result, mid, hpick, hrest⟩ := Draw.bind_eq_some.mp h
  rcases Draw.pick_cases snapshot.channels (fun channel => channel.weight snapshot.signals settings)
    tape with ⟨cause, -, hfailed⟩ | ⟨lottery, place, channel, -, hget, hpos, hdone⟩
  · rw [hfailed] at hpick
    cases hpick
    cases hrest
    exact .inl ⟨rfl, rfl⟩
  · rw [hdone] at hpick
    cases hpick
    obtain ⟨elements, hblock, ⟨rfl, rfl⟩ | ⟨hne, rfl⟩⟩ := cluster_cases hrest
    · -- an empty block has taken nothing
      cases Block.generate_made hblock with
      | nothing => exact .inl ⟨rfl, rfl⟩
    · exact .inr ⟨channel, List.mem_of_getElem? hget, hpos, elements, _, rfl, hne, hblock⟩

/-- All that the making of a card can do. -/
theorem card_cases {element : Option Element} {iteration : ℕ}
    (h : Card.generate snapshot iteration settings tape = some ((element, snapshot'), tape')) :
    Card.isDue settings iteration = false ∧ element = none ∧ snapshot' = snapshot ∨
    Card.isDue settings iteration = true ∧ element = some .advert ∧ snapshot' = snapshot ∨
    Card.isDue settings iteration = true ∧
      element = some (.discover (snapshot.suggested.take settings.discoverCardSize.toNat)) ∧
      snapshot' = { snapshot with
        suggested := snapshot.suggested.drop settings.discoverCardSize.toNat } := by
  unfold Card.generate at h
  split at h
  · rename_i hnotDue
    cases h
    exact .inl ⟨by simpa using hnotDue, rfl, rfl⟩
  · rename_i hdue
    have hdue' : Card.isDue settings iteration = true := by simpa using hdue
    obtain ⟨heads, mid, -, hrest⟩ := Draw.bind_eq_some.mp h
    cases heads with
    | true =>
      cases hrest
      exact .inr (.inl ⟨hdue', rfl, rfl⟩)
    | false =>
      cases hrest
      exact .inr (.inr ⟨hdue', rfl, rfl⟩)

theorem card_performed {element : Option Element} {iteration : ℕ}
    (h : Card.generate snapshot iteration settings tape = some ((element, snapshot'), tape')) :
    Performed settings snapshot .specialCard element.toList snapshot' := by
  rcases card_cases h with ⟨-, rfl, rfl⟩ | ⟨-, rfl, rfl⟩ | ⟨-, rfl, rfl⟩
  · exact .card snapshot'.suggested (by simp)
  · exact .card snapshot'.suggested (by simp [Element.isSpecialCard])
  · exact .card _ (by simp [Element.isSpecialCard])

/-- All that a step can do: make a block of its scope, a cluster or a card. -/
theorem perform_cases {iteration : ℕ}
    (h : perform step iteration snapshot settings tape = some ((produced, snapshot'), tape')) :
    (∃ scope elements, step.scope? settings = some scope ∧
      produced = elements.map Element.ofArticleElement ∧
      Block.generate snapshot scope settings tape = some ((elements, snapshot'), tape')) ∨
    (step = .cluster ∧ ∃ element, produced = element.toList ∧
      Cluster.generateRandom snapshot settings tape = some ((element, snapshot'), tape')) ∨
    (step = .specialCard ∧ ∃ element, produced = element.toList ∧
      Card.generate snapshot iteration settings tape = some ((element, snapshot'), tape')) := by
  cases step
  case opening | default | topNews =>
    obtain ⟨⟨elements, snapshot''⟩, mid, hmade, hrest⟩ := Draw.bind_eq_some.mp h
    cases hrest
    exact .inl ⟨_, elements, rfl, rfl, hmade⟩
  case cluster =>
    obtain ⟨⟨element, snapshot''⟩, mid, hmade, hrest⟩ := Draw.bind_eq_some.mp h
    cases hrest
    exact .inr (.inl ⟨rfl, element, rfl, hmade⟩)
  case specialCard =>
    obtain ⟨⟨element, snapshot''⟩, mid, hmade, hrest⟩ := Draw.bind_eq_some.mp h
    cases hrest
    exact .inr (.inr ⟨rfl, element, rfl, hmade⟩)

/-- A step that makes a block makes it of its scope. -/
theorem perform_block {scope : Scope} {iteration : ℕ} (hscope : step.scope? settings = some scope)
    (h : perform step iteration snapshot settings tape = some ((produced, snapshot'), tape')) :
    ∃ elements, produced = elements.map Element.ofArticleElement ∧
      Block.generate snapshot scope settings tape = some ((elements, snapshot'), tape') := by
  rcases perform_cases h with ⟨scope', elements, hscope', rfl, hblock⟩ | ⟨rfl, -⟩ | ⟨rfl, -⟩
  · obtain rfl := Option.some.inj (hscope'.symm.trans hscope)
    exact ⟨elements, rfl, hblock⟩
  · cases hscope
  · cases hscope

/-- What a step can do, in terms of the articles that it takes. -/
theorem perform_performed {iteration : ℕ}
    (h : perform step iteration snapshot settings tape = some ((produced, snapshot'), tape')) :
    Performed settings snapshot step produced snapshot' := by
  rcases perform_cases h with ⟨scope, elements, hscope, rfl, hblock⟩ |
    ⟨rfl, element, rfl, hcluster⟩ | ⟨rfl, element, rfl, hcard⟩
  · exact .block hscope (Block.generate_made hblock)
  · rcases randomCluster_cases hcluster with
      ⟨rfl, rfl⟩ | ⟨channel, hmem, hweight, elements, mid, rfl, hne, hblock⟩
    · exact .noCluster
    · exact .cluster hmem hweight (Block.generate_made hblock) hne
  · exact card_performed hcard

namespace Performed

theorem flatMap_articles_block (elements : List ArticleElement) :
    (elements.map Element.ofArticleElement).flatMap Element.articles =
      elements.map ArticleElement.article := by
  rw [List.flatMap_map, ← List.flatMap_pure_eq_map]
  congr 1
  funext element
  exact Element.articles_ofArticleElement element

theorem flatMap_articles_card (special : ∀ element ∈ produced, element.isSpecialCard = true) :
    produced.flatMap Element.articles = [] := by
  refine List.flatMap_eq_nil_iff.mpr fun element hmem => ?_
  have hspecial := special element hmem
  cases element <;> first | rfl | cases hspecial

/-- A step moves articles from the pool into its elements. -/
theorem perm (h : Performed settings snapshot step produced snapshot') :
    (produced.flatMap Element.articles ++ snapshot'.articles).Perm snapshot.articles := by
  cases h with
  | block scope_eq made =>
    rw [flatMap_articles_block]
    exact made.perm
  | cluster mem weight made nonempty =>
    rw [List.flatMap_singleton]
    exact made.perm
  | noCluster => exact List.Perm.refl _
  | card suggested special =>
    rw [flatMap_articles_card special]
    exact List.Perm.refl _

theorem length_add (h : Performed settings snapshot step produced snapshot') :
    (produced.flatMap Element.articles).length + snapshot'.articles.length =
      snapshot.articles.length := by
  rw [← List.length_append]
  exact h.perm.length_eq

theorem within_of_made {scope : Scope} {elements : List ArticleElement}
    (made : Block.Made snapshot scope elements snapshot') : snapshot'.Within snapshot := by
  have hsublist := made.sublist
  rw [made.eq_withArticles] at hsublist ⊢
  exact ⟨rfl, rfl, rfl, hsublist⟩

/-- A step only uses up a snapshot. -/
theorem within (h : Performed settings snapshot step produced snapshot') :
    snapshot'.Within snapshot := by
  cases h with
  | block scope_eq made => exact within_of_made made
  | cluster mem weight made nonempty => exact within_of_made made
  | noCluster => exact Snapshot.Within.refl _
  | card suggested special => exact ⟨rfl, rfl, rfl, List.Sublist.refl _⟩

end Performed

/-! ### States of a run -/

namespace Progress

section

variable (progress : Progress) (produced : List Element) (snapshot' : Snapshot)

@[simp] theorem record_snapshot : (progress.record produced snapshot').snapshot = snapshot' := rfl

@[simp] theorem record_step : (progress.record produced snapshot').step = progress.step.next := rfl

theorem record_idle : (progress.record produced snapshot').idle =
    if snapshot'.articles.length < progress.snapshot.articles.length then 0
    else progress.idle + 1 := rfl

@[simp] theorem record_elements : (progress.record produced snapshot').run.elements =
    progress.run.elements ++ produced := rfl

@[simp] theorem record_iterations : (progress.record produced snapshot').run.iterations =
    progress.run.iterations + 1 := rfl

theorem record_consumed : (progress.record produced snapshot').run.consumed =
    progress.run.consumed +
      (progress.snapshot.articles.length - snapshot'.articles.length) := rfl

@[simp] theorem record_steps : (progress.record produced snapshot').run.steps =
    progress.run.steps ++ [progress.trace produced snapshot'] := rfl

end

theorem advance_eq_some {progress progress' : Progress} :
    progress.advance settings tape = some (progress', tape') ↔
      ∃ produced snapshot', perform progress.step progress.run.iterations progress.snapshot settings
        tape = some ((produced, snapshot'), tape') ∧
          progress' = progress.record produced snapshot' := by
  constructor
  · intro h
    obtain ⟨⟨produced, snapshot'⟩, mid, hperform, hrest⟩ := Draw.bind_eq_some.mp h
    cases hrest
    exact ⟨produced, snapshot', hperform, rfl⟩
  · rintro ⟨produced, snapshot', hperform, rfl⟩
    exact Draw.bind_eq_some.mpr ⟨_, _, hperform, rfl⟩

/-- Whether a run does no more steps. -/
def HasEnded (settings : Settings) (progress : Progress) : Prop :=
  progress.isGoing = false ∨ settings.maxIterations.toNat ≤ progress.run.iterations

/-- The ways in which a run can end. -/
theorem hasEnded_iff {progress : Progress} :
    progress.HasEnded settings ↔ progress.snapshot.articles = [] ∨
      Step.cycle.length ≤ progress.idle ∨
        settings.maxIterations.toNat ≤ progress.run.iterations := by
  rw [HasEnded, isGoing, Bool.and_eq_false_iff, Bool.not_eq_false', List.isEmpty_iff,
    decide_eq_false_iff_not, not_lt, or_assoc]

/-- What a run that goes on has left of its pool, its patience and its iterations. -/
theorem not_hasEnded_iff {progress : Progress} :
    ¬ progress.HasEnded settings ↔ progress.snapshot.articles ≠ [] ∧
      progress.idle < Step.cycle.length ∧
        progress.run.iterations < settings.maxIterations.toNat := by
  rw [hasEnded_iff, not_or, not_or, not_le, not_le]

theorem not_hasEnded_of_isGoing {progress : Progress} (hgoing : progress.isGoing = true)
    (hlimit : progress.run.iterations < settings.maxIterations.toNat) :
    ¬ progress.HasEnded settings := by
  rintro (hended | hended)
  · rw [hgoing] at hended
    cases hended
  · omega

/-- The states that a run goes through, each with the tape at that point. -/
inductive Reaches (settings : Settings) (start : Progress) (tape : Tape) :
    Progress → Tape → Prop where
  | start : Reaches settings start tape start tape
  | step {progress progress' : Progress} {mid mid' : Tape}
      (reaches : Reaches settings start tape progress mid) (going : ¬ progress.HasEnded settings)
      (advance : progress.advance settings mid = some (progress', mid')) :
      Reaches settings start tape progress' mid'

/-- A property that every step keeps, as it draws and from where it is reached, holds in every
state. -/
theorem Reaches.induct_perform {start last : Progress} {P : Progress → Prop}
    (h : Reaches settings start tape last tape') (hstart : P start)
    (hstep : ∀ progress produced snapshot' mid mid', Reaches settings start tape progress mid →
      P progress → ¬ progress.HasEnded settings →
      perform progress.step progress.run.iterations progress.snapshot settings mid =
        some ((produced, snapshot'), mid') →
      P (progress.record produced snapshot')) : P last := by
  induction h with
  | start => exact hstart
  | step reaches going advance ih =>
    obtain ⟨produced, snapshot', hperform, rfl⟩ := advance_eq_some.mp advance
    exact hstep _ produced snapshot' _ _ reaches ih going hperform

/-- A property that every step keeps, whatever it draws, holds in every state. -/
theorem Reaches.induct {start last : Progress} {P : Progress → Prop}
    (h : Reaches settings start tape last tape') (hstart : P start)
    (hstep : ∀ progress produced snapshot', P progress → ¬ progress.HasEnded settings →
      Performed settings progress.snapshot progress.step produced snapshot' →
      P (progress.record produced snapshot')) : P last :=
  h.induct_perform hstart fun _ _ _ _ _ _ ih hgoing hperform =>
    hstep _ _ _ ih hgoing (perform_performed hperform)

/-- The steps of a run lead to a state in which it has ended. -/
theorem finish_reaches {start progress : Progress} {mid : Tape} {run : Run} (iterations : ℕ)
    (hreaches : Reaches settings start tape progress mid)
    (hiterations : progress.run.iterations + iterations = settings.maxIterations.toNat)
    (h : finish settings iterations progress mid = some (run, tape')) :
    ∃ last, Reaches settings start tape last tape' ∧ last.HasEnded settings ∧
      run = last.close := by
  induction iterations generalizing progress mid with
  | zero =>
    cases h
    exact ⟨progress, hreaches, .inr (by omega), rfl⟩
  | succ iterations ih =>
    rw [finish] at h
    split at h
    · rename_i hgoing
      obtain ⟨next, mid', hadvance, hrest⟩ := Draw.bind_eq_some.mp h
      -- one more step is allowed, so the limit is not reached either
      have hnot : ¬ progress.HasEnded settings := not_hasEnded_of_isGoing hgoing (by omega)
      refine ih (hreaches.step hnot hadvance) ?_ hrest
      obtain ⟨produced, snapshot', -, rfl⟩ := advance_eq_some.mp hadvance
      rw [record_iterations]
      omega
    · rename_i hgoing
      cases h
      exact ⟨progress, hreaches, .inl (by simpa using hgoing), rfl⟩

end Progress

open Progress (Reaches HasEnded)

/-- The run returned is the last state, closed. -/
theorem make_reaches {run : Run} (h : make snapshot settings tape = some (run, tape')) :
    ∃ last, Reaches settings (Progress.start snapshot settings) tape last tape' ∧
      last.HasEnded settings ∧ run = last.close :=
  Progress.finish_reaches _ .start (Nat.zero_add _) h

/-- A run only uses up its snapshot. -/
theorem Progress.Reaches.within {start last : Progress}
    (h : Reaches settings start tape last tape') : last.snapshot.Within start.snapshot :=
  h.induct (Snapshot.Within.refl _) fun _ _ _ ih _ hperformed => hperformed.within.trans ih

/-- What a step of a run did: its record, what it made, and the pool it worked on. -/
structure Part (settings : Settings) (start : Snapshot) (trace : StepTrace)
    (produced : List Element) : Prop where
  performed : ∃ snapshot snapshot', snapshot.Within start ∧
    Performed settings snapshot trace.step produced snapshot' ∧
    trace.poolBefore = snapshot.articles.length ∧ trace.poolAfter = snapshot'.articles.length
  produced : trace.produced = produced.length

/-- Whether the elements so far are those that the steps so far made, one after the other. -/
def Progress.HasParts (settings : Settings) (start : Snapshot) (progress : Progress) : Prop :=
  ∃ parts : List (StepTrace × List Element), parts.map Prod.fst = progress.run.steps ∧
    parts.flatMap Prod.snd = progress.run.elements ∧
    ∀ part ∈ parts, Part settings start part.1 part.2

/-- The elements of a run are those that its steps made. -/
theorem Progress.Reaches.hasParts {start last : Progress}
    (h : Reaches settings start tape last tape') (hsteps : start.run.steps = [])
    (helements : start.run.elements = []) : last.HasParts settings start.snapshot := by
  refine h.induct_perform ⟨[], hsteps.symm, helements.symm, fun part hmem => nomatch hmem⟩ ?_
  rintro progress produced snapshot' mid mid' hreaches ⟨parts, hmap, hflat, hall⟩ - hperform
  have hwithin := hreaches.within
  refine ⟨parts ++ [(progress.trace produced snapshot', produced)], ?_, ?_, fun part hmem => ?_⟩
  · rw [List.map_append, hmap, record_steps]
    rfl
  · rw [List.flatMap_append, hflat, List.flatMap_singleton, record_elements]
  · rcases List.mem_append.mp hmem with hmem | hmem
    · exact hall part hmem
    · obtain rfl := List.mem_singleton.mp hmem
      exact ⟨⟨_, _, hwithin, perform_performed hperform, rfl, rfl⟩, rfl⟩

end Run

end NewsFeed
