/-
Blocks: what they take from the pool, and what stays.

Everything is said of candidates, whose places keep equal articles apart.  Each draw inside a block
takes one candidate out of those that are left (`Takes`), so the candidates of a block are some of
those in scope, none twice; and the articles of a block together with those left in the pool are the
articles of the pool again.

* `generate_cases` — all that drawing a block can do: there is no hero, or there is one and slots are
  filled from what it leaves;
* `generate_made` — every block that can come out is `Made`: nothing at all, or a hero and inline
  articles out of the scope;
* `Made.perm` — a block loses and doubles no article;
* `Made.sublist` — the pool keeps its order.
-/
import Mathlib.Data.List.Basic
import NewsFeed.Generators
import NewsFeed.Proofs.Draws

namespace NewsFeed

/-! ### Candidates -/

namespace Candidate

theorem map_article_ofPool (pool : List Article) : (ofPool pool).map article = pool := by
  rw [ofPool, List.map_map]
  exact List.zipIdx_map_fst 0 pool

theorem nodup_place_ofPool (pool : List Article) : ((ofPool pool).map place).Nodup := by
  have h : (ofPool pool).map place = List.range pool.length := by
    rw [ofPool, List.map_map, List.range_eq_range']
    exact List.zipIdx_map_snd 0 pool
  rw [h]
  exact List.nodup_range

/-- What is left of a pool are the articles of the candidates at the other places. -/
theorem left_eq (pool : List Article) (taken : List ℕ) :
    left pool taken =
      ((ofPool pool).filter fun candidate => candidate.place ∉ taken).map article := by
  rw [left, ← List.filterMap_eq_map, List.filterMap_filter]
  congr 1
  funext candidate
  by_cases h : candidate.place ∈ taken <;> simp [h]

theorem left_eq_filter_zipIdx (pool : List Article) (taken : List ℕ) :
    left pool taken = (pool.zipIdx.filter fun item => item.2 ∉ taken).map Prod.fst := by
  rw [left_eq, ofPool, List.filter_map, List.map_map]
  rfl

theorem left_sublist (pool : List Article) (taken : List ℕ) : (left pool taken).Sublist pool := by
  have h := (List.filter_sublist (p := fun candidate => decide (candidate.place ∉ taken))
    (l := ofPool pool)).map article
  rwa [map_article_ofPool, ← left_eq] at h

/-- Candidates taken out of a pool stand at different places. -/
theorem nodup_place_of_subperm {pool : List Article} {taken : List Candidate}
    (htaken : taken.Subperm (ofPool pool)) : (taken.map place).Nodup := by
  obtain ⟨sublist, hsame, hsub⟩ := htaken
  exact (hsame.map place).nodup_iff.mp ((nodup_place_ofPool pool).sublist (hsub.map place))

/-- Candidates with different places are found again by their places. -/
theorem filter_place_perm {candidates taken : List Candidate}
    (hnodup : (candidates.map place).Nodup) (htaken : taken.Subperm candidates) :
    (candidates.filter fun candidate => candidate.place ∈ taken.map place).Perm taken := by
  have hcandidates := hnodup.of_map
  have htaken' : taken.Nodup := by
    obtain ⟨sublist, hperm, hsub⟩ := htaken
    exact hperm.nodup_iff.mp (hcandidates.sublist hsub)
  -- neither list repeats a candidate, so it is enough that they have the same members
  refine (List.perm_ext_iff_of_nodup (hcandidates.filter _) htaken').mpr fun candidate => ?_
  rw [List.mem_filter, decide_eq_true_eq, List.mem_map]
  constructor
  · rintro ⟨hmem, other, hother, hplace⟩
    have hsame := List.inj_on_of_nodup_map hnodup (htaken.subset hother) hmem hplace
    rwa [← hsame]
  · intro hmem
    exact ⟨htaken.subset hmem, candidate, hmem, rfl⟩

/-- The articles taken and the articles left are the articles of the pool. -/
theorem perm_left {pool : List Article} {taken : List Candidate}
    (htaken : taken.Subperm (ofPool pool)) :
    (taken.map article ++ left pool (taken.map place)).Perm pool := by
  have hfilter := filter_place_perm (nodup_place_ofPool pool) htaken
  have hsplit := List.filter_append_perm
    (fun candidate => decide (candidate.place ∈ taken.map place)) (ofPool pool)
  have hleft : left pool (taken.map place) = ((ofPool pool).filter fun candidate =>
      !decide (candidate.place ∈ taken.map place)).map article := by
    rw [left_eq]
    congr 2
    funext candidate
    exact decide_not
  have hjoined := hsplit.map article
  rw [List.map_append, ← hleft, map_article_ofPool] at hjoined
  exact ((hfilter.symm.map article).append_right _).trans hjoined

end Candidate

namespace Block

/-! ### Draws inside a block -/

/-- Whether `others` are the candidates without `picked`, in their order. -/
structure Takes (eligible : List Candidate) (picked : Candidate) (others : List Candidate) :
    Prop where
  perm : eligible.Perm (picked :: others)
  sublist : others.Sublist eligible

theorem takes_eraseIdx {eligible : List Candidate} {place : ℕ} {picked : Candidate}
    (h : eligible[place]? = some picked) : Takes eligible picked (eligible.eraseIdx place) where
  perm := by
    obtain ⟨hlt, rfl⟩ := List.getElem?_eq_some_iff.mp h
    exact (List.getElem_cons_eraseIdx_perm hlt).symm
  sublist := List.eraseIdx_sublist ..

theorem takes_filter {eligible : List Candidate} {picked : Candidate}
    (hnodup : (eligible.map Candidate.place).Nodup) (hmem : picked ∈ eligible) :
    Takes eligible picked (eligible.filter fun candidate => candidate.place ≠ picked.place) where
  perm := by
    have hnotMem : picked ∉ eligible.filter fun candidate => candidate.place ≠ picked.place := by
      simp
    -- no candidate comes twice, so it is enough that both sides have the same ones
    refine (List.perm_ext_iff_of_nodup hnodup.of_map
      (List.nodup_cons.mpr ⟨hnotMem, hnodup.of_map.filter _⟩)).mpr fun candidate => ?_
    rw [List.mem_cons, List.mem_filter, decide_eq_true_eq]
    constructor
    · intro hcandidate
      by_cases hplace : candidate.place = picked.place
      · exact .inl (List.inj_on_of_nodup_map hnodup hcandidate hmem hplace)
      · exact .inr ⟨hcandidate, hplace⟩
    · rintro (rfl | ⟨hcandidate, -⟩)
      · exact hmem
      · exact hcandidate
  sublist := List.filter_sublist

/-- The weights of candidates. -/
def weights (signals : Signals) (settings : Settings) (eligible : List Candidate) : List Float :=
  eligible.map fun candidate => candidate.article.weight signals settings

variable {signals : Signals} {settings : Settings} {eligible others : List Candidate}
  {picked : Candidate} {tape tape' : Tape}

/-- A draw by weight fails if the weights cannot be drawn from, and otherwise takes a candidate. -/
theorem pickByWeight_cases (signals : Signals) (settings : Settings) (eligible : List Candidate)
    (tape : Tape) :
    (∃ cause, Lottery.ofWeights (weights signals settings eligible) = .error cause ∧
      pickByWeight signals settings eligible tape = some (none, tape)) ∨
    ∃ lottery picked others tape', Lottery.ofWeights (weights signals settings eligible) =
        .ok lottery ∧ Takes eligible picked others ∧
      pickByWeight signals settings eligible tape = some (some (picked, others), tape') ∧
        tape.Along tape' := by
  rcases Draw.pick_cases eligible (fun candidate => candidate.article.weight signals settings) tape
    with ⟨cause, hbad, hpick⟩ | ⟨lottery, place, picked, hgood, hget, -, hpick⟩
  · exact .inl ⟨cause, hbad, Draw.bind_eq_some.mpr ⟨_, _, hpick, rfl⟩⟩
  · refine .inr ⟨lottery, picked, _, _, hgood, takes_eraseIdx hget,
      Draw.bind_eq_some.mpr ⟨_, _, hpick, rfl⟩, rfl, rfl⟩

theorem takes_of_pickByWeight
    (h : pickByWeight signals settings eligible tape = some (some (picked, others), tape')) :
    Takes eligible picked others := by
  rcases pickByWeight_cases signals settings eligible tape with
    ⟨_, -, hnone⟩ | ⟨_, _, _, _, -, htakes, hsome, -⟩
  · rw [hnone] at h
    cases h
  · rw [hsome] at h
    cases h
    exact htakes

/-- What a discovery is. -/
theorem takes_of_pickDiscovery (hnodup : (eligible.map Candidate.place).Nodup)
    (h : pickDiscovery signals eligible tape = some (some (picked, others), tape')) :
    Takes eligible picked others ∧ picked.article.isUnvisited signals = true := by
  obtain ⟨result, mid, hpick, hresult⟩ := Draw.bind_eq_some.mp h
  rcases Draw.pick_cases (eligible.filter fun candidate => candidate.article.isUnvisited signals)
    (fun candidate => candidate.article.score) tape
    with ⟨cause, -, hfailed⟩ | ⟨lottery, place, item, -, hget, -, hdone⟩
  · rw [hfailed] at hpick
    cases hpick
    cases hresult
  · rw [hdone] at hpick
    cases hpick
    cases hresult
    obtain ⟨hmem, hunvisited⟩ := List.mem_filter.mp (List.mem_of_getElem? hget)
    exact ⟨takes_filter hnodup hmem, hunvisited⟩

theorem takes_of_tryDiscovery (hnodup : (eligible.map Candidate.place).Nodup)
    (h : tryDiscovery signals settings eligible tape = some (some (picked, others), tape')) :
    Takes eligible picked others ∧ picked.article.isUnvisited signals = true := by
  obtain ⟨heads, mid, -, hrest⟩ := Draw.bind_eq_some.mp h
  cases heads with
  | true => exact takes_of_pickDiscovery hnodup hrest
  | false => cases hrest

/-- What a filled slot is. -/
theorem takes_of_pickInline {isDiscover : Bool} (hnodup : (eligible.map Candidate.place).Nodup)
    (h : pickInline signals settings eligible tape =
      some (some (picked, isDiscover, others), tape')) :
    Takes eligible picked others ∧
      (isDiscover = true → picked.article.isUnvisited signals = true) := by
  obtain ⟨discovery, mid, hdiscovery, hrest⟩ := Draw.bind_eq_some.mp h
  cases discovery with
  | some found =>
    cases hrest
    -- a discovery
    obtain ⟨htakes, hunvisited⟩ := takes_of_tryDiscovery hnodup hdiscovery
    exact ⟨htakes, fun _ => hunvisited⟩
  | none =>
    -- no discovery, so the slot is filled by weight
    obtain ⟨drawn, mid', hdrawn, hresult⟩ := Draw.bind_eq_some.mp hrest
    cases drawn with
    | none => cases hresult
    | some found =>
      cases hresult
      exact ⟨takes_of_pickByWeight hdrawn, fun h => nomatch h⟩

theorem Takes.nodup (h : Takes eligible picked others)
    (hnodup : (eligible.map Candidate.place).Nodup) : (others.map Candidate.place).Nodup :=
  hnodup.sublist (h.sublist.map _)

theorem Takes.subperm {taken : List Candidate} (h : Takes eligible picked others)
    (htaken : taken.Subperm others) : (picked :: taken).Subperm eligible :=
  ((List.subperm_cons picked).mpr htaken).trans h.perm.symm.subperm

/-- The candidates that fill slots are taken out of the eligible ones, and the discoveries among
them are unvisited. -/
theorem subperm_of_fillSlots {slots : ℕ} {inlines : List (Candidate × Bool)}
    (hnodup : (eligible.map Candidate.place).Nodup)
    (h : fillSlots signals settings slots eligible tape = some (inlines, tape')) :
    (inlines.map Prod.fst).Subperm eligible ∧
      ∀ candidate, (candidate, true) ∈ inlines → candidate.article.isUnvisited signals = true := by
  induction slots generalizing eligible inlines tape with
  | zero =>
    cases h
    exact ⟨List.nil_subperm, fun _ hmem => nomatch hmem⟩
  | succ slots ih =>
    rw [fillSlots] at h
    split at h
    · cases h
      exact ⟨List.nil_subperm, fun _ hmem => nomatch hmem⟩
    obtain ⟨slot, mid, hslot, hrest⟩ := Draw.bind_eq_some.mp h
    cases slot with
    | none =>
      cases hrest
      exact ⟨List.nil_subperm, fun _ hmem => nomatch hmem⟩
    | some found =>
      obtain ⟨picked, isDiscover, others⟩ := found
      -- the slot takes one candidate, and the other slots choose among the rest
      obtain ⟨htakes, hdiscover⟩ := takes_of_pickInline hnodup hslot
      obtain ⟨rest, mid', hfill, hresult⟩ := Draw.bind_eq_some.mp hrest
      cases hresult
      obtain ⟨hsubperm, hunvisited⟩ := ih (htakes.nodup hnodup) hfill
      refine ⟨htakes.subperm hsubperm, fun candidate hmem => ?_⟩
      rcases List.mem_cons.mp hmem with heq | hmem
      · obtain ⟨rfl, rfl⟩ := Prod.mk.inj heq
        exact hdiscover rfl
      · exact hunvisited candidate hmem

/-! ### Blocks -/

/-- The blocks that can come out of a scope, each with what is left of the snapshot: none, or a
hero and inline articles. -/
inductive Made (snapshot : Snapshot) (scope : Scope) : List ArticleElement → Snapshot → Prop where
  | nothing : Made snapshot scope [] snapshot
  | block (hero : Candidate) (inlines : List (Candidate × Bool))
      (taken : (hero :: inlines.map Prod.fst).Subperm (candidates snapshot scope))
      (unvisited : ∀ candidate, (candidate, true) ∈ inlines →
        candidate.article.isUnvisited snapshot.signals = true) :
      Made snapshot scope (assemble snapshot hero inlines).1 (assemble snapshot hero inlines).2

theorem nodup_place_candidates (snapshot : Snapshot) (scope : Scope) :
    ((candidates snapshot scope).map Candidate.place).Nodup :=
  (Candidate.nodup_place_ofPool snapshot.articles).sublist (List.filter_sublist.map _)

/-- The candidates' articles are the articles of the pool that are in scope. -/
theorem map_article_candidates (snapshot : Snapshot) (scope : Scope) :
    (candidates snapshot scope).map Candidate.article =
      snapshot.articles.filter fun article => scope.admits snapshot.publishers article := by
  have h := List.filter_map (f := Candidate.article)
    (p := fun article => scope.admits snapshot.publishers article)
    (l := Candidate.ofPool snapshot.articles)
  rw [Candidate.map_article_ofPool] at h
  exact h.symm

/-- All that drawing a block can do: nothing if no hero can be drawn, and else to take a hero and
fill slots from the candidates that it leaves. -/
theorem generate_cases {snapshot snapshot' : Snapshot} {scope : Scope}
    {elements : List ArticleElement}
    (h : generate snapshot scope settings tape = some ((elements, snapshot'), tape')) :
    (elements = [] ∧ snapshot' = snapshot ∧ ∃ cause, Lottery.ofWeights
      (weights snapshot.signals settings (candidates snapshot scope)) = .error cause) ∨
    ∃ lottery hero others inlines slots mid, Lottery.ofWeights
        (weights snapshot.signals settings (candidates snapshot scope)) = .ok lottery ∧
      Takes (candidates snapshot scope) hero others ∧
      fillSlots snapshot.signals settings slots others mid = some (inlines, tape') ∧
      elements = (assemble snapshot hero inlines).1 ∧
      snapshot' = (assemble snapshot hero inlines).2 := by
  unfold generate at h
  split at h
  · next hempty =>
    cases h
    rw [List.isEmpty_iff.mp hempty]
    exact .inl ⟨rfl, rfl, _, rfl⟩
  obtain ⟨slots, mid, -, hrest⟩ := Draw.bind_eq_some.mp h
  obtain ⟨drawn, mid', hdrawn, hrest⟩ := Draw.bind_eq_some.mp hrest
  rcases pickByWeight_cases snapshot.signals settings (candidates snapshot scope) mid with
    ⟨cause, hbad, hnone⟩ | ⟨lottery, hero, others, _, hgood, htakes, hsome, -⟩
  · rw [hnone] at hdrawn
    cases hdrawn
    cases hrest
    exact .inl ⟨rfl, rfl, cause, hbad⟩
  · rw [hsome] at hdrawn
    cases hdrawn
    obtain ⟨inlines, mid'', hfill, hresult⟩ := Draw.bind_eq_some.mp hrest
    cases hresult
    exact .inr ⟨lottery, hero, others, inlines, slots, _, hgood, htakes, hfill, rfl, rfl⟩

/-- What drawing a block can lead to. -/
theorem generate_made {snapshot snapshot' : Snapshot} {scope : Scope}
    {elements : List ArticleElement}
    (h : generate snapshot scope settings tape = some ((elements, snapshot'), tape')) :
    Made snapshot scope elements snapshot' := by
  rcases generate_cases h with
    ⟨rfl, rfl, -⟩ | ⟨-, hero, others, inlines, slots, mid, -, htakes, hfill, rfl, rfl⟩
  · exact .nothing
  · -- the inlines are taken from what the hero leaves
    have hnodup := htakes.nodup (nodup_place_candidates snapshot scope)
    obtain ⟨hsubperm, hunvisited⟩ := subperm_of_fillSlots hnodup hfill
    exact .block hero inlines (htakes.subperm hsubperm) hunvisited

namespace Made

variable {snapshot snapshot' : Snapshot} {scope : Scope} {elements : List ArticleElement}

theorem article_ofInline (inlines : List (Candidate × Bool)) :
    (inlines.map fun (candidate, isDiscover) =>
      ArticleElement.inline candidate.article isDiscover).map ArticleElement.article =
        (inlines.map Prod.fst).map Candidate.article := by
  rw [List.map_map, List.map_map]
  rfl

/-- The articles of a block and those left in the pool are the articles of the pool. -/
theorem perm (h : Made snapshot scope elements snapshot') :
    (elements.map ArticleElement.article ++ snapshot'.articles).Perm snapshot.articles := by
  cases h with
  | nothing => exact List.Perm.refl _
  | block hero inlines taken unvisited =>
    -- a candidate in scope is a candidate of the pool
    have hpool : (hero :: inlines.map Prod.fst).Subperm (Candidate.ofPool snapshot.articles) :=
      taken.trans List.filter_sublist.subperm
    have hplaces : (inlines.map Prod.fst).map Candidate.place =
        inlines.map fun (candidate, _) => candidate.place := List.map_map
    have hperm := Candidate.perm_left hpool
    rw [List.map_cons, List.map_cons, ← article_ofInline, hplaces] at hperm
    exact hperm

/-- The articles left in the pool keep their order. -/
theorem sublist (h : Made snapshot scope elements snapshot') :
    snapshot'.articles.Sublist snapshot.articles := by
  cases h with
  | nothing => exact List.Sublist.refl _
  | block hero inlines taken unvisited => exact Candidate.left_sublist _ _

/-- A block changes the articles of a snapshot only. -/
theorem eq_withArticles (h : Made snapshot scope elements snapshot') :
    snapshot' = { snapshot with articles := snapshot'.articles } := by
  cases h <;> rfl

/-- A block is empty, or a hero followed by inline articles. -/
theorem shape (h : Made snapshot scope elements snapshot') :
    elements = [] ∨ ∃ hero inlines, elements = .hero hero :: inlines ∧
      ∀ element ∈ inlines, ∃ article isDiscover, element = .inline article isDiscover := by
  cases h with
  | nothing => exact .inl rfl
  | block hero inlines taken unvisited =>
    refine .inr ⟨hero.article, _, rfl, fun element hmem => ?_⟩
    obtain ⟨⟨candidate, isDiscover⟩, -, rfl⟩ := List.mem_map.mp hmem
    exact ⟨candidate.article, isDiscover, rfl⟩

/-- The articles of a block are in its scope. -/
theorem admits (h : Made snapshot scope elements snapshot') {element : ArticleElement}
    (hmem : element ∈ elements) : scope.admits snapshot.publishers element.article = true := by
  cases h with
  | nothing => cases hmem
  | block hero inlines taken unvisited =>
    have hscope : ∀ candidate ∈ hero :: inlines.map Prod.fst,
        scope.admits snapshot.publishers candidate.article = true := fun candidate htaken =>
      (List.mem_filter.mp (taken.subset htaken)).2
    rcases List.mem_cons.mp hmem with rfl | hmem
    · exact hscope hero List.mem_cons_self
    · obtain ⟨⟨candidate, isDiscover⟩, hinline, rfl⟩ := List.mem_map.mp hmem
      exact hscope candidate (List.mem_cons_of_mem _ (List.mem_map.mpr ⟨_, hinline, rfl⟩))

/-- The discoveries of a block are unvisited. -/
theorem unvisited (h : Made snapshot scope elements snapshot') {article : Article}
    (hmem : .inline article true ∈ elements) : article.isUnvisited snapshot.signals = true := by
  cases h with
  | nothing => cases hmem
  | block hero inlines taken unvisited =>
    rcases List.mem_cons.mp hmem with heq | hmem
    · cases heq
    · obtain ⟨⟨candidate, isDiscover⟩, hinline, heq⟩ := List.mem_map.mp hmem
      cases heq
      exact unvisited candidate hinline

/-- A block without elements leaves the pool as it is, and one with elements makes it smaller. -/
theorem length_add (h : Made snapshot scope elements snapshot') :
    elements.length + snapshot'.articles.length = snapshot.articles.length := by
  have hlength := h.perm.length_eq
  rwa [List.length_append, List.length_map] at hlength

end Made

end Block

end NewsFeed
