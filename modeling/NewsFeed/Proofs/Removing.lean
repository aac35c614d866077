/-
Blocks drawn from the pool itself.

A block can be drawn without candidates and places: each draw chooses among the articles of the pool
that are in scope, as they stand there at that time, and takes the one chosen out of the pool at
once (`drawOut`, `drawBlock`).  This is the same computation as `generate`, which sets the places
taken aside and clears them at the end, since an article taken out of the pool leaves the others in
their order and equal articles are told apart by where they stand (`takeOut?_map`).

In this form a draw looks at the articles in scope only.  So a block of a channel is the block that
a pool without all other articles would give, and the other articles stay where they are.

* `generate_eq_drawBlock` — drawing candidates and drawing from the pool are the same;
* `length_of_drawBlock` — how long a block is, and why it is no longer;
* `generate_channel_filtered` — the block of a channel out of a pool with and without other articles.
-/
import NewsFeed.Proofs.Admission

namespace NewsFeed

/-! ### Taking an article out of a pool -/

/-- The item that stands at a place among those of a kind, and the list without it. -/
def takeOut? {α : Type} (kind : α → Bool) : (place : ℕ) → List α → Option (α × List α)
  | _, [] => none
  | 0, item :: rest =>
    if kind item then some (item, rest)
    else (takeOut? kind 0 rest).map (Prod.map id (item :: ·))
  | place + 1, item :: rest =>
    (takeOut? kind (if kind item then place else place + 1) rest).map (Prod.map id (item :: ·))

section

variable {α : Type} {kind : α → Bool} {place : ℕ} {pool left : List α} {item : α}

theorem isSome_takeOut?_iff :
    (takeOut? kind place pool).isSome = true ↔ place < (pool.filter kind).length := by
  fun_induction takeOut? kind place pool with
  | case1 => simp
  | case2 item rest hkind => simp [hkind]
  | case3 item rest hkind ih => simpa [hkind] using ih
  | case4 place item rest ih =>
    rw [Option.isSome_map, ih]
    by_cases hkind : kind item = true
    · simp [hkind]
    · simp [hkind]

/-- What is taken out is of the kind and stands between what is left. -/
theorem exists_split_of_takeOut? (h : takeOut? kind place pool = some (item, left)) :
    kind item = true ∧ ∃ before after, pool = before ++ item :: after ∧ left = before ++ after := by
  fun_induction takeOut? kind place pool generalizing left with
  | case1 => cases h
  | case2 first rest hkind =>
    cases h
    exact ⟨hkind, [], rest, rfl, rfl⟩
  | case3 first rest hkind ih =>
    obtain ⟨⟨_, left'⟩, hrest, heq⟩ := Option.map_eq_some_iff.mp h
    cases heq
    obtain ⟨hitem, before, after, rfl, rfl⟩ := ih hrest
    exact ⟨hitem, first :: before, after, rfl, rfl⟩
  | case4 place first rest ih =>
    obtain ⟨⟨_, left'⟩, hrest, heq⟩ := Option.map_eq_some_iff.mp h
    cases heq
    obtain ⟨hitem, before, after, rfl, rfl⟩ := ih hrest
    exact ⟨hitem, first :: before, after, rfl, rfl⟩

/-- Taking out one of a kind makes every kind that it belongs to smaller by one. -/
theorem length_filter_of_takeOut? {kind' : α → Bool}
    (h : takeOut? kind place pool = some (item, left)) (himp : kind item = true → kind' item = true) :
    (left.filter kind').length + 1 = (pool.filter kind').length := by
  obtain ⟨hitem, before, after, rfl, rfl⟩ := exists_split_of_takeOut? h
  rw [List.filter_append, List.filter_append, List.filter_cons_of_pos (himp hitem),
    List.length_append, List.length_append, List.length_cons]
  omega

/-- Taking out one of a kind from among the items of another kind is taking out one of both kinds
from among all. -/
theorem takeOut?_filter (kind kind' : α → Bool) (place : ℕ) (pool : List α) :
    takeOut? kind' place (pool.filter kind) =
      (takeOut? (fun item => kind item && kind' item) place pool).map
        (Prod.map id (List.filter kind)) := by
  induction pool generalizing place with
  | nil => rfl
  | cons first rest ih =>
    by_cases hkind : kind first = true
    · -- an item of the kind stays in front of what is left
      have hcons : Prod.map id (List.filter kind) ∘ Prod.map id (first :: ·) =
          Prod.map (id : α → α) (first :: ·) ∘ Prod.map id (List.filter kind) := by
        funext found
        exact congrArg _ (List.filter_cons_of_pos hkind)
      rw [List.filter_cons_of_pos hkind]
      cases place with
      | zero =>
        rw [takeOut?, takeOut?, ih, hkind, Bool.true_and]
        split
        · rfl
        · rw [Option.map_map, Option.map_map, hcons]
      | succ place =>
        rw [takeOut?, takeOut?, ih, hkind, Bool.true_and, Option.map_map, Option.map_map, hcons]
    · -- another one is filtered out on both sides
      have hdrop : Prod.map id (List.filter kind) ∘ Prod.map id (first :: ·) =
          Prod.map (id : α → α) (List.filter kind) := by
        funext found
        exact congrArg _ (List.filter_cons_of_neg hkind)
      have hboth : (kind first && kind' first) = false := by
        rw [Bool.not_eq_true] at hkind
        rw [hkind, Bool.false_and]
      rw [List.filter_cons_of_neg hkind, ih]
      cases place with
      | zero => rw [takeOut?, if_neg (by rw [hboth]; exact Bool.false_ne_true), Option.map_map, hdrop]
      | succ place =>
        rw [takeOut?, if_neg (by rw [hboth]; exact Bool.false_ne_true), Option.map_map, hdrop]

end

/-- The articles of a snapshot that are in scope. -/
def Snapshot.articlesIn (snapshot : Snapshot) (scope : Scope) : List Article :=
  snapshot.articles.filter (scope.admits snapshot.publishers)

namespace Block

/-- Draws one of the articles of a kind and takes it out of the pool. -/
def drawOut (kind : Article → Bool) (weight : Article → Float) (pool : List Article) :
    Draw (Option (Article × List Article)) := do
  match ← Draw.pickIndex ((pool.filter kind).map weight) with
  | .ok place => return takeOut? kind place pool
  | .error _ => return none

/-- Draws an unvisited article in scope by its score, if a coin asks for one. -/
def drawDiscovery (signals : Signals) (settings : Settings) (inScope : Article → Bool)
    (pool : List Article) : Draw (Option (Article × List Article)) := do
  if ← Draw.coin settings.inlineDiscoveryRatio then
    drawOut (fun article => inScope article && article.isUnvisited signals) Article.score pool
  else return none

/-- Draws an inline article in scope: a discovery if there is one, else an article by weight. -/
def drawInline (signals : Signals) (settings : Settings) (inScope : Article → Bool)
    (pool : List Article) : Draw (Option (ArticleElement × List Article)) := do
  match ← drawDiscovery signals settings inScope pool with
  | some (article, left) => return some (.inline article true, left)
  | none =>
    match ← drawOut inScope (fun article => article.weight signals settings) pool with
    | some (article, left) => return some (.inline article false, left)
    | none => return none

/-- Draws up to `slots` inline articles in scope. -/
def drawInlines (signals : Signals) (settings : Settings) (inScope : Article → Bool) :
    (slots : ℕ) → List Article → Draw (List ArticleElement × List Article)
  | 0, pool => return ([], pool)
  | slots + 1, pool => do
    if (pool.filter inScope).isEmpty then return ([], pool)
    match ← drawInline signals settings inScope pool with
    | some (element, left) =>
      let (elements, left) ← drawInlines signals settings inScope slots left
      return (element :: elements, left)
    | none => return ([], pool)

/-- Draws a block, each article out of what the pool then holds. -/
def drawBlock (snapshot : Snapshot) (scope : Scope) (settings : Settings) :
    Draw (List ArticleElement × Snapshot) := do
  if (snapshot.articlesIn scope).isEmpty then return ([], snapshot)
  let count ← inlineCount settings
  let inScope := scope.admits snapshot.publishers
  let weight (article : Article) := article.weight snapshot.signals settings
  match ← drawOut inScope weight snapshot.articles with
  | none => return ([], snapshot)
  | some (hero, left) =>
    let (inlines, left) ← drawInlines snapshot.signals settings inScope count left
    return (.hero hero :: inlines, { snapshot with articles := left })

end Block

/-! ### Candidates and the pool they stand for -/

namespace Candidate

/-- The candidates at other places than `candidate`. -/
def without (candidate : Candidate) (candidates : List Candidate) : List Candidate :=
  candidates.filter fun other => other.place ≠ candidate.place

variable {candidates : List Candidate} {candidate : Candidate} {place : ℕ}

theorem without_cons_self (h : ((candidate :: candidates).map Candidate.place).Nodup) :
    candidate.without (candidate :: candidates) = candidates := by
  obtain ⟨hnotMem, -⟩ := List.nodup_cons.mp h
  rw [without, List.filter_cons_of_neg (by simp)]
  refine List.filter_eq_self.mpr fun other hmem => decide_eq_true fun hplace => hnotMem ?_
  rw [← hplace]
  exact List.mem_map_of_mem hmem

theorem without_cons_of_mem {first : Candidate}
    (h : ((first :: candidates).map Candidate.place).Nodup) (hmem : candidate ∈ candidates) :
    candidate.without (first :: candidates) = first :: candidate.without candidates := by
  obtain ⟨hnotMem, -⟩ := List.nodup_cons.mp h
  refine List.filter_cons_of_pos (decide_eq_true fun hplace => hnotMem ?_)
  rw [hplace]
  exact List.mem_map_of_mem hmem

/-- Among candidates with different places, taking one leaves those at the other places. -/
theorem eq_without_of_takes {others : List Candidate}
    (hnodup : (candidates.map Candidate.place).Nodup)
    (h : Block.Takes candidates candidate others) : others = candidate.without candidates := by
  have hplaces : ((candidate :: others).map Candidate.place).Nodup :=
    (h.perm.map Candidate.place).nodup_iff.mp hnodup
  have hothers : candidate.without others = others :=
    List.filter_eq_self.mpr fun other hmem => decide_eq_true fun heq =>
      (List.nodup_cons.mp hplaces).1 (heq ▸ List.mem_map_of_mem hmem)
  have hperm : (candidate.without candidates).Perm (candidate.without (candidate :: others)) :=
    h.perm.filter _
  rw [without_cons_self hplaces] at hperm
  -- what is left is a part of those at other places, and there are no more of these
  have hsublist : (candidate.without others).Sublist (candidate.without candidates) :=
    h.sublist.filter _
  rw [hothers] at hsublist
  exact hsublist.eq_of_length hperm.length_eq.symm

/-- Candidates with different places: leaving out the one at an index is leaving out its place. -/
theorem eraseIdx_eq_without (hnodup : (candidates.map Candidate.place).Nodup)
    (h : candidates[place]? = some candidate) :
    candidates.eraseIdx place = candidate.without candidates :=
  eq_without_of_takes hnodup (Block.takes_eraseIdx h)

/-- Taking an article out of a pool is leaving out the place of its candidate. -/
theorem takeOut?_map (kind : Article → Bool) (hnodup : (candidates.map Candidate.place).Nodup) :
    takeOut? kind place (candidates.map article) =
      (candidates.filter fun candidate => kind candidate.article)[place]?.map fun candidate =>
        (candidate.article, (candidate.without candidates).map article) := by
  induction candidates generalizing place with
  | nil => rfl
  | cons first rest ih =>
    -- a candidate taken out further behind leaves the first one where it is
    have hbehind : ∀ place, (takeOut? kind place (rest.map article)).map
          (Prod.map id (first.article :: ·)) =
        (rest.filter fun candidate => kind candidate.article)[place]?.map fun candidate =>
          (candidate.article, (candidate.without (first :: rest)).map article) := by
      intro place
      rw [ih (List.nodup_cons.mp hnodup).2, Option.map_map]
      refine Option.map_congr fun candidate hmem => ?_
      have hcandidate := (List.mem_filter.mp (List.mem_of_getElem? hmem)).1
      rw [without_cons_of_mem hnodup hcandidate]
      rfl
    by_cases hkind : kind first.article = true
    · have hfilter : ((first :: rest).filter fun candidate => kind candidate.article) =
          first :: rest.filter fun candidate => kind candidate.article :=
        List.filter_cons_of_pos hkind
      rw [hfilter, List.map_cons]
      cases place with
      | zero =>
        rw [takeOut?, if_pos hkind, List.getElem?_cons_zero, Option.map_some,
          without_cons_self hnodup]
      | succ place =>
        rw [takeOut?, if_pos hkind]
        exact hbehind place
    · have hfilter : ((first :: rest).filter fun candidate => kind candidate.article) =
          rest.filter fun candidate => kind candidate.article :=
        List.filter_cons_of_neg hkind
      rw [hfilter, List.map_cons]
      cases place with
      | zero =>
        rw [takeOut?, if_neg hkind]
        exact hbehind 0
      | succ place =>
        rw [takeOut?, if_neg hkind]
        exact hbehind (place + 1)

theorem without_filter (candidate : Candidate) (kind : Article → Bool)
    (candidates : List Candidate) :
    candidate.without (candidates.filter fun candidate => kind candidate.article) =
      (candidate.without candidates).filter fun candidate => kind candidate.article :=
  List.filter_comm ..

end Candidate

namespace Block

variable {signals : Signals} {settings : Settings} {inScope : Article → Bool}
  {eligible rest others : List Candidate} {picked : Candidate} {tape tape' : Tape}

/-- What a pick among candidates with different places leaves. -/
theorem others_of_pick {weight : Candidate → Float}
    (hnodup : (eligible.map Candidate.place).Nodup)
    (h : Draw.pick eligible weight tape = some (.ok (picked, others), tape')) :
    others = picked.without eligible := by
  rcases Draw.pick_cases eligible weight tape with
    ⟨cause, -, hpick⟩ | ⟨lottery, place, item, -, hget, -, hpick⟩
  · rw [hpick] at h
    cases h
  · rw [hpick] at h
    cases h
    exact Candidate.eraseIdx_eq_without hnodup hget

/-- Drawing out of a pool is a pick among its candidates. -/
theorem drawOut_map (kind : Article → Bool) (weight : Article → Float)
    (hnodup : (rest.map Candidate.place).Nodup) :
    drawOut kind weight (rest.map Candidate.article) =
      (fun drawn => drawn.toOption.map fun (found : Candidate × List Candidate) =>
        (found.1.article, (found.1.without rest).map Candidate.article)) <$>
        Draw.pick (rest.filter fun candidate => kind candidate.article)
          (fun candidate => weight candidate.article) := by
  -- both draw by the weights of the candidates of that kind, in the order of the pool
  have hweights : ((rest.map Candidate.article).filter kind).map weight =
      (rest.filter fun candidate => kind candidate.article).map
        fun candidate => weight candidate.article := by
    rw [List.filter_map, List.map_map]
    rfl
  rw [drawOut, Draw.pick, hweights, map_bind]
  refine bind_congr fun drawn => ?_
  cases drawn with
  | error cause => rfl
  | ok place =>
    dsimp only
    rw [Candidate.takeOut?_map kind hnodup]
    cases (rest.filter fun candidate => kind candidate.article)[place]? <;> rfl

theorem pickByWeight_eq (signals : Signals) (settings : Settings) (eligible : List Candidate) :
    pickByWeight signals settings eligible = Except.toOption <$>
      Draw.pick eligible (fun candidate => candidate.article.weight signals settings) := by
  rw [pickByWeight, map_eq_pure_bind]
  refine bind_congr fun drawn => ?_
  cases drawn <;> rfl

theorem pickDiscovery_eq (signals : Signals) (eligible : List Candidate) :
    pickDiscovery signals eligible =
      (fun drawn => drawn.toOption.map fun (found : Candidate × List Candidate) =>
        (found.1, found.1.without eligible)) <$>
        Draw.pick (eligible.filter fun candidate => candidate.article.isUnvisited signals)
          (fun candidate => candidate.article.score) := by
  rw [pickDiscovery, map_eq_pure_bind]
  refine bind_congr fun drawn => ?_
  cases drawn <;> rfl

/-- A discovery drawn out of a pool is a discovery among its candidates. -/
theorem drawDiscovery_map (hnodup : (rest.map Candidate.place).Nodup) :
    drawDiscovery signals settings inScope (rest.map Candidate.article) =
      Option.map (fun found => (found.1.article, (found.1.without rest).map Candidate.article)) <$>
        tryDiscovery signals settings
          (rest.filter fun candidate => inScope candidate.article) := by
  rw [drawDiscovery, tryDiscovery, map_bind]
  refine bind_congr fun heads => ?_
  cases heads with
  | false => rfl
  | true =>
    -- the two filters are applied in one order here and in the other one there
    have hkind : (rest.filter fun candidate =>
          inScope candidate.article && candidate.article.isUnvisited signals) =
        (rest.filter fun candidate => inScope candidate.article).filter
          fun candidate => candidate.article.isUnvisited signals := by
      rw [List.filter_filter]
      exact List.filter_congr fun candidate _ => Bool.and_comm _ _
    rw [if_pos rfl, if_pos rfl, drawOut_map _ _ hnodup, hkind, pickDiscovery_eq, Functor.map_map]
    congr 1
    funext drawn
    cases drawn <;> rfl

/-- An inline article drawn out of a pool is a slot filled with one of its candidates. -/
theorem drawInline_map (hnodup : (rest.map Candidate.place).Nodup) :
    drawInline signals settings inScope (rest.map Candidate.article) =
      Option.map (fun found => (.inline found.1.article found.2.1,
        (found.1.without rest).map Candidate.article)) <$>
        pickInline signals settings (rest.filter fun candidate => inScope candidate.article) := by
  rw [drawInline, pickInline, drawDiscovery_map hnodup, bind_map_left, map_bind]
  refine bind_congr fun discovery => ?_
  cases discovery with
  | some found => rfl
  | none =>
    dsimp only [Option.map]
    rw [drawOut_map _ _ hnodup, pickByWeight_eq, bind_map_left, bind_map_left, map_bind]
    refine bind_congr fun drawn => ?_
    cases drawn <;> rfl

/-- Leaving out candidates one by one is leaving out all of their places. -/
theorem filter_places_without (candidate : Candidate) (taken : List ℕ) (rest : List Candidate) :
    (candidate.without rest).filter (fun other => other.place ∉ taken) =
      rest.filter fun other => other.place ∉ candidate.place :: taken := by
  rw [Candidate.without, List.filter_filter]
  refine List.filter_congr fun other _ => ?_
  rw [Bool.eq_iff_iff]
  simp [and_comm]

/-- Inline articles drawn out of a pool are slots filled with its candidates, and the pool left is
that without their places. -/
theorem drawInlines_map (hnodup : (rest.map Candidate.place).Nodup) (slots : ℕ) :
    drawInlines signals settings inScope slots (rest.map Candidate.article) =
      (fun inlines => (inlines.map fun (candidate, isDiscover) =>
          ArticleElement.inline candidate.article isDiscover,
        (rest.filter fun other =>
          other.place ∉ inlines.map fun (candidate, _) => candidate.place).map
            Candidate.article)) <$>
        fillSlots signals settings slots
          (rest.filter fun candidate => inScope candidate.article) := by
  -- with nothing taken everything is left
  have hnone : ∀ rest : List Candidate,
      (rest.filter fun other => other.place ∉ ([] : List ℕ)) = rest := fun rest =>
    List.filter_eq_self.mpr fun other _ => by simp
  induction slots generalizing rest with
  | zero =>
    rw [drawInlines, fillSlots, map_pure, List.map_nil, List.map_nil, hnone]
  | succ slots ih =>
    have hempty : ((rest.map Candidate.article).filter inScope).isEmpty =
        (rest.filter fun candidate => inScope candidate.article).isEmpty := by
      rw [List.filter_map, List.isEmpty_map]
      rfl
    rw [drawInlines, fillSlots, hempty]
    split
    · rw [map_pure, List.map_nil, List.map_nil, hnone]
    rw [drawInline_map hnodup, bind_map_left, map_bind]
    refine Draw.bind_congr_of_returned fun slot hreturned => ?_
    cases slot with
    | none =>
      dsimp only [Option.map]
      rw [map_pure, List.map_nil, List.map_nil, hnone]
    | some found =>
      obtain ⟨tape, tape', hslot⟩ := hreturned
      obtain ⟨picked, isDiscover, others⟩ := found
      have hscope : ((rest.filter fun candidate => inScope candidate.article).map
          Candidate.place).Nodup := hnodup.sublist (List.filter_sublist.map _)
      obtain rfl := Candidate.eq_without_of_takes hscope (takes_of_pickInline hscope hslot).1
      dsimp only [Option.map]
      have hwithout : ((picked.without rest).map Candidate.place).Nodup :=
        hnodup.sublist (List.filter_sublist.map _)
      rw [ih hwithout, Candidate.without_filter, bind_map_left, map_bind]
      refine bind_congr fun inlines => ?_
      rw [map_pure, List.map_cons, List.map_cons, filter_places_without]

/-- **Drawing candidates and drawing out of the pool are the same.** -/
theorem generate_eq_drawBlock (snapshot : Snapshot) (scope : Scope) (settings : Settings) :
    generate snapshot scope settings = drawBlock snapshot scope settings := by
  have hnodup := Candidate.nodup_place_ofPool snapshot.articles
  have hempty : (snapshot.articlesIn scope).isEmpty = (candidates snapshot scope).isEmpty := by
    rw [← List.isEmpty_map (f := Candidate.article), map_article_candidates]
    rfl
  have hhero := drawOut_map (scope.admits snapshot.publishers)
    (fun article => article.weight snapshot.signals settings) hnodup
  rw [Candidate.map_article_ofPool] at hhero
  rw [generate, drawBlock, hempty]
  split
  · rfl
  refine bind_congr fun count => ?_
  dsimp only
  rw [hhero, pickByWeight_eq, bind_map_left, bind_map_left]
  refine Draw.bind_congr_of_returned fun drawn hreturned => ?_
  cases drawn with
  | error cause => rfl
  | ok found =>
    obtain ⟨tape, tape', hpick⟩ := hreturned
    obtain ⟨hero, others⟩ := found
    obtain rfl := others_of_pick (nodup_place_candidates snapshot scope) hpick
    have hwithout : ((hero.without (Candidate.ofPool snapshot.articles)).map
        Candidate.place).Nodup := hnodup.sublist (List.filter_sublist.map _)
    dsimp only [Except.toOption, Option.map]
    rw [drawInlines_map hwithout, ← Candidate.without_filter, bind_map_left]
    refine bind_congr fun inlines => ?_
    rw [filter_places_without, ← Candidate.left_eq]
    rfl

/-! ### How long a block is -/

/-- A draw out of a pool fails if the weights cannot be drawn from, and else takes an article out. -/
theorem drawOut_cases (kind : Article → Bool) (weight : Article → Float) (pool : List Article)
    (tape : Tape) :
    (∃ cause, Lottery.ofWeights ((pool.filter kind).map weight) = .error cause ∧
      drawOut kind weight pool tape = some (none, tape)) ∨
    ∃ place article left tape', takeOut? kind place pool = some (article, left) ∧
      drawOut kind weight pool tape = some (some (article, left), tape') := by
  cases h : Lottery.ofWeights ((pool.filter kind).map weight) with
  | error cause =>
    exact .inl ⟨cause, rfl, Draw.bind_eq_some.mpr ⟨_, _, Draw.pickIndex_of_error h tape, rfl⟩⟩
  | ok lottery =>
    obtain ⟨weight', hget, -⟩ := Lottery.winner_weight_pos h (tape.word tape.used)
    -- a place that was drawn is one of the places of the weights
    have hplace : lottery.winner (tape.word tape.used) < (pool.filter kind).length := by
      have hlt := (List.getElem?_eq_some_iff.mp hget).1
      rwa [List.length_map] at hlt
    obtain ⟨⟨article, left⟩, htake⟩ :=
      Option.isSome_iff_exists.mp (isSome_takeOut?_iff.mpr hplace)
    refine .inr ⟨_, article, left, { tape with used := tape.used + 1 }, htake, ?_⟩
    refine Draw.bind_eq_some.mpr ⟨_, _, Draw.pickIndex_of_ok h tape, ?_⟩
    rw [← htake]
    rfl

/-- A draw by weight takes one of the articles in scope. -/
theorem length_of_drawInline {pool left : List Article} {element : ArticleElement}
    (h : drawInline signals settings inScope pool tape = some (some (element, left), tape')) :
    (left.filter inScope).length + 1 = (pool.filter inScope).length := by
  obtain ⟨discovery, mid, hdiscovery, hrest⟩ := Draw.bind_eq_some.mp h
  -- whichever way the article is drawn, it is one in the scope
  cases discovery with
  | some found =>
    cases hrest
    obtain ⟨heads, mid', -, hdrawn⟩ := Draw.bind_eq_some.mp hdiscovery
    cases heads with
    | false => cases hdrawn
    | true =>
      obtain hfailed | ⟨place, article, left', tape'', htake, hdone⟩ := drawOut_cases
        (fun article => inScope article && article.isUnvisited signals) Article.score pool mid'
      · obtain ⟨cause, -, hfailed⟩ := hfailed
        rw [if_pos rfl, hfailed] at hdrawn
        cases hdrawn
      · rw [if_pos rfl, hdone] at hdrawn
        cases hdrawn
        exact length_filter_of_takeOut? htake fun hboth => (Bool.and_eq_true_iff.mp hboth).1
  | none =>
    obtain ⟨drawn, mid', hdrawn, hresult⟩ := Draw.bind_eq_some.mp hrest
    obtain hfailed | ⟨place, article, left', tape'', htake, hdone⟩ := drawOut_cases
      inScope (fun article => article.weight signals settings) pool mid
    · obtain ⟨cause, -, hfailed⟩ := hfailed
      rw [hfailed] at hdrawn
      cases hdrawn
      cases hresult
    · rw [hdone] at hdrawn
      cases hdrawn
      cases hresult
      exact length_filter_of_takeOut? htake id

/-- A slot stays open only if the articles in scope cannot be drawn from by weight. -/
theorem refused_of_drawInline {pool : List Article}
    (h : drawInline signals settings inScope pool tape = some (none, tape')) :
    ∃ cause, Lottery.ofWeights ((pool.filter inScope).map
      fun article => article.weight signals settings) = .error cause := by
  obtain ⟨discovery, mid, hdiscovery, hrest⟩ := Draw.bind_eq_some.mp h
  cases discovery with
  | some found => cases hrest
  | none =>
    obtain ⟨drawn, mid', hdrawn, hresult⟩ := Draw.bind_eq_some.mp hrest
    obtain ⟨cause, hbad, -⟩ | ⟨place, article, left', tape'', -, hdone⟩ := drawOut_cases
      inScope (fun article => article.weight signals settings) pool mid
    · exact ⟨cause, hbad⟩
    · rw [hdone] at hdrawn
      cases hdrawn
      cases hresult

/-- The slots take as many articles as they fill, and slots stay open only if the articles in scope
that are left cannot be drawn from by weight. -/
theorem length_of_drawInlines {slots : ℕ} {pool left : List Article}
    {elements : List ArticleElement}
    (h : drawInlines signals settings inScope slots pool tape = some ((elements, left), tape')) :
    elements.length + (left.filter inScope).length = (pool.filter inScope).length ∧
      elements.length ≤ slots ∧
      (elements.length < slots → ∃ cause, Lottery.ofWeights ((left.filter inScope).map
        fun article => article.weight signals settings) = .error cause) := by
  induction slots generalizing elements pool tape with
  | zero =>
    cases h
    exact ⟨Nat.zero_add _, le_rfl, fun hlt => absurd hlt (lt_irrefl 0)⟩
  | succ slots ih =>
    rw [drawInlines] at h
    split at h
    · rename_i hempty
      cases h
      rw [List.isEmpty_iff.mp hempty]
      exact ⟨rfl, Nat.zero_le _, fun _ => ⟨.noCandidates, rfl⟩⟩
    obtain ⟨slot, mid, hslot, hrest⟩ := Draw.bind_eq_some.mp h
    cases slot with
    | none =>
      cases hrest
      -- the slots end here, since no article could be drawn by weight
      exact ⟨Nat.zero_add _, Nat.zero_le _, fun _ => refused_of_drawInline hslot⟩
    | some found =>
      obtain ⟨element, left'⟩ := found
      obtain ⟨⟨rest, left''⟩, mid', hfill, hresult⟩ := Draw.bind_eq_some.mp hrest
      cases hresult
      -- one article less in the pool, one slot less to fill
      obtain ⟨hlength, hle, hopen⟩ := ih hfill
      have htaken := length_of_drawInline hslot
      rw [List.length_cons]
      exact ⟨by omega, by omega, fun hlt => hopen (by omega)⟩

theorem drawBlock_of_isEmpty {snapshot : Snapshot} {scope : Scope}
    (h : snapshot.articlesIn scope = []) :
    drawBlock snapshot scope settings = pure ([], snapshot) :=
  if_pos (List.isEmpty_iff.mpr h)

/-- A block falls short of the number of articles asked for only if the articles left in scope cannot
be drawn from by weight. -/
theorem length_of_drawBlock {snapshot left : Snapshot} {scope : Scope}
    {elements : List ArticleElement} (hne : snapshot.articlesIn scope ≠ [])
    (h : drawBlock snapshot scope settings tape = some ((elements, left), tape')) :
    ∃ count mid, inlineCount settings tape = some (count, mid) ∧
      elements.length + (left.articlesIn scope).length = (snapshot.articlesIn scope).length ∧
      elements.length ≤ 1 + count ∧
      (elements.length < 1 + count → ∃ cause, Lottery.ofWeights ((left.articlesIn scope).map
        fun article => article.weight left.signals settings) = .error cause) := by
  rw [drawBlock, if_neg fun hempty => hne (List.isEmpty_iff.mp hempty)] at h
  obtain ⟨count, mid, hcount, hrest⟩ := Draw.bind_eq_some.mp h
  obtain ⟨drawn, mid', hdrawn, hrest⟩ := Draw.bind_eq_some.mp hrest
  refine ⟨count, mid, hcount, ?_⟩
  obtain ⟨cause, hbad, hfailed⟩ | ⟨place, hero, pool, tape'', htake, hdone⟩ := drawOut_cases
    (scope.admits snapshot.publishers) (fun article => article.weight snapshot.signals settings)
    snapshot.articles mid
  · rw [hfailed] at hdrawn
    cases hdrawn
    cases hrest
    exact ⟨Nat.zero_add _, Nat.zero_le _, fun _ => ⟨cause, hbad⟩⟩
  · rw [hdone] at hdrawn
    cases hdrawn
    obtain ⟨⟨inlines, pool'⟩, mid'', hfill, hresult⟩ := Draw.bind_eq_some.mp hrest
    cases hresult
    -- the inlines are drawn from what the hero leaves
    obtain ⟨hlength, hle, hopen⟩ := length_of_drawInlines hfill
    have htaken := length_filter_of_takeOut? htake id
    rw [List.length_cons]
    dsimp only [Snapshot.articlesIn]
    exact ⟨by omega, by omega, fun hlt => hopen (by omega)⟩

/-! ### Pools without the articles out of scope -/

/-- Drawing out of the articles of a kind. -/
theorem drawOut_filter (kind kind' : Article → Bool) (weight : Article → Float)
    (pool : List Article) :
    drawOut kind' weight (pool.filter kind) = Option.map (Prod.map id (List.filter kind)) <$>
      drawOut (fun article => kind article && kind' article) weight pool := by
  have hboth : (pool.filter kind).filter kind' =
      pool.filter fun article => kind article && kind' article := by
    rw [List.filter_filter]
    exact List.filter_congr fun article _ => Bool.and_comm _ _
  rw [drawOut, drawOut, hboth, map_bind]
  refine bind_congr fun drawn => ?_
  cases drawn with
  | error cause => rfl
  | ok place => exact congrArg pure (takeOut?_filter kind kind' place pool)

variable (signals settings inScope)

theorem drawDiscovery_filter (pool : List Article) :
    drawDiscovery signals settings (fun _ => true) (pool.filter inScope) =
      Option.map (Prod.map id (List.filter inScope)) <$>
        drawDiscovery signals settings inScope pool := by
  rw [drawDiscovery, drawDiscovery, map_bind]
  refine bind_congr fun heads => ?_
  cases heads with
  | false => rfl
  | true => exact drawOut_filter inScope _ Article.score pool

theorem drawInline_filter (pool : List Article) :
    drawInline signals settings (fun _ => true) (pool.filter inScope) =
      Option.map (Prod.map id (List.filter inScope)) <$>
        drawInline signals settings inScope pool := by
  have hscope : (fun article => inScope article && true) = inScope :=
    funext fun article => Bool.and_true _
  rw [drawInline, drawInline, drawDiscovery_filter, bind_map_left, map_bind]
  refine bind_congr fun discovery => ?_
  cases discovery with
  | some found => rfl
  | none =>
    dsimp only [Option.map]
    rw [drawOut_filter, hscope, bind_map_left, map_bind]
    refine bind_congr fun drawn => ?_
    cases drawn <;> rfl

theorem drawInlines_filter (slots : ℕ) (pool : List Article) :
    drawInlines signals settings (fun _ => true) slots (pool.filter inScope) =
      Prod.map id (List.filter inScope) <$> drawInlines signals settings inScope slots pool := by
  induction slots generalizing pool with
  | zero => rfl
  | succ slots ih =>
    have hall : (pool.filter inScope).filter (fun _ => true) = pool.filter inScope :=
      List.filter_eq_self.mpr fun _ _ => rfl
    rw [drawInlines, drawInlines, hall]
    split
    · rfl
    rw [drawInline_filter, bind_map_left, map_bind]
    refine bind_congr fun slot => ?_
    cases slot with
    | none => rfl
    | some found =>
      dsimp only [Option.map, Prod.map, id]
      rw [ih, bind_map_left, map_bind]
      rfl

end Block

/-- Whether the publisher of an article is known and lists a channel in some locale. -/
def Snapshot.isListed (snapshot : Snapshot) (channel : String) (article : Article) : Bool :=
  (snapshot.publishers.get? article.publisherId).any fun publisher =>
    publisher.listings.any fun listing => listing.channels.contains channel

/-- The snapshot with only those articles whose publisher lists a channel. -/
def Snapshot.listing (snapshot : Snapshot) (channel : String) : Snapshot :=
  { snapshot with articles := snapshot.articles.filter (snapshot.isListed channel) }

theorem Scope.admits_channel_eq (snapshot : Snapshot) (channel : String) :
    (Scope.channel channel).admits snapshot.publishers = snapshot.isListed channel := by
  funext article
  rw [admits, Snapshot.isListed]
  cases snapshot.publishers.get? article.publisherId <;> rfl

namespace Block

variable {snapshot left : Snapshot} {channel : String} {settings : Settings} {tape tape' : Tape}
  {elements : List ArticleElement}

/-- The block of a channel is the one that a pool without the other articles would give. -/
theorem generate_listing (snapshot : Snapshot) (channel : String) (settings : Settings) :
    generate (snapshot.listing channel) .everything settings =
      Prod.map id (fun left => left.listing channel) <$>
        generate snapshot (.channel channel) settings := by
  have hall : (snapshot.listing channel).articlesIn .everything =
      snapshot.articlesIn (.channel channel) := by
    have hself : (snapshot.listing channel).articlesIn .everything =
        (snapshot.listing channel).articles := List.filter_eq_self.mpr fun _ _ => rfl
    rw [hself, Snapshot.articlesIn, Scope.admits_channel_eq]
    rfl
  -- drawing the hero among the listed articles is drawing it from the filtered pool
  have hhero := drawOut_filter (snapshot.isListed channel) (fun _ => true)
    (fun article => article.weight snapshot.signals settings) snapshot.articles
  have hscope : (fun article => snapshot.isListed channel article && true) =
      snapshot.isListed channel := funext fun article => Bool.and_true _
  rw [hscope] at hhero
  rw [generate_eq_drawBlock, generate_eq_drawBlock, drawBlock, drawBlock, hall,
    Scope.admits_channel_eq]
  split
  · rfl
  rw [map_bind]
  refine bind_congr fun count => ?_
  have hdrawn : drawOut (Scope.everything.admits (snapshot.listing channel).publishers)
      (fun article => article.weight (snapshot.listing channel).signals settings)
      (snapshot.listing channel).articles = _ := hhero
  dsimp only
  rw [hdrawn, bind_map_left, map_bind]
  refine bind_congr fun drawn => ?_
  cases drawn with
  | none => rfl
  | some found =>
    -- and so it is for the inlines
    have hinlines : drawInlines (snapshot.listing channel).signals settings
        (Scope.everything.admits (snapshot.listing channel).publishers) count
        (found.2.filter (snapshot.isListed channel)) = _ :=
      drawInlines_filter snapshot.signals settings (snapshot.isListed channel) count found.2
    dsimp only [Option.map, Prod.map, id]
    rw [hinlines, bind_map_left, map_bind]
    rfl

/-- The articles out of scope stay where they are. -/
theorem filter_not_isListed
    (h : generate snapshot (.channel channel) settings tape = some ((elements, left), tape')) :
    (left.articles.filter fun article => !snapshot.isListed channel article) =
      snapshot.articles.filter fun article => !snapshot.isListed channel article := by
  have hmade := generate_made h
  have hnone : ((elements.map ArticleElement.article).filter
      fun article => !snapshot.isListed channel article) = [] := by
    refine List.filter_eq_nil_iff.mpr fun article hmem => ?_
    obtain ⟨element, helement, rfl⟩ := List.mem_map.mp hmem
    have hadmits := hmade.admits helement
    rw [Scope.admits_channel_eq] at hadmits
    simp [hadmits]
  -- the articles out of scope that are left are some of those there were, and as many
  have hlength := (hmade.perm.filter fun article => !snapshot.isListed channel article).length_eq
  rw [List.filter_append, hnone, List.nil_append] at hlength
  exact (hmade.sublist.filter _).eq_of_length hlength

/-- **A channel's block looks at the articles of the channel only.**  Drawn out of a pool without
all other articles it has the same elements, by the same draws, and leaves those articles of the
channel that it leaves here; the other articles stay where they are. -/
theorem generate_channel_filtered (snapshot : Snapshot) (channel : String) (settings : Settings) :
    generate (snapshot.listing channel) .everything settings =
      Prod.map id (fun left => left.listing channel) <$>
        generate snapshot (.channel channel) settings ∧
    ∀ tape elements left tape',
      generate snapshot (.channel channel) settings tape = some ((elements, left), tape') →
        left = { snapshot with articles := left.articles } ∧
        left.articles.Sublist snapshot.articles ∧
        (left.articles.filter fun article => !snapshot.isListed channel article) =
          snapshot.articles.filter fun article => !snapshot.isListed channel article := by
  refine ⟨generate_listing snapshot channel settings, fun tape elements left tape' h => ?_⟩
  have hmade := generate_made h
  exact ⟨hmade.eq_withArticles, hmade.sublist, filter_not_isListed h⟩

/-- The signal of an article whose publisher the user visits. -/
def visited : Signal where
  sourceSubscribed := true
  sourceVisits := 1.0
  popRecency := 1.0

/-- A snapshot in which the articles of a channel stand between others, one of them twice. -/
def interleaved : Snapshot where
  publishers := Dict.ofList [("p", ⟨"p", "p", "", [⟨"en_US", ["Tech"]⟩], .notModified⟩)]
  articles := [⟨"c", "q", "c", 1.0, none⟩, ⟨"a", "p", "a", 1.0, none⟩, ⟨"d", "q", "d", 1.0, none⟩,
    ⟨"a", "p", "a", 1.0, none⟩, ⟨"n", "p", "n", 1.0, none⟩, ⟨"e", "q", "e", 1.0, none⟩,
    ⟨"b", "p", "b", 1.0, none⟩]
  signals := Dict.ofList [("a", visited), ("b", visited), ("c", visited), ("d", visited)]

/-- Settings under which most of the two inline articles of a block are discoveries. -/
def curious : Settings where
  blockMinInline := 2
  blockMaxInline := 2
  inlineDiscoveryRatio := 0.75

theorem generate_channel_filtered_interleaved :
    ∃ elements left tape',
      generate interleaved (.channel "Tech") curious Run.steadyTape =
        some ((elements, left), tape') ∧
      generate (interleaved.listing "Tech") .everything curious Run.steadyTape =
        some ((elements, left.listing "Tech"), tape') ∧
      elements.map (fun element => element.article.id) = ["a", "n", "b"] ∧
      left.articles.map Article.id = ["c", "a", "d", "e"] ∧
      left.articles.filter (fun article => !interleaved.isListed "Tech" article) =
        interleaved.articles.filter fun article => !interleaved.isListed "Tech" article := by
  have hdrawn : (generate interleaved (.channel "Tech") curious Run.steadyTape).map
      (fun made => (made.1.1.map (fun element => element.article.id),
        made.1.2.articles.map Article.id)) = some (["a", "n", "b"], ["c", "a", "d", "e"]) := by
    decide +kernel
  obtain ⟨⟨⟨elements, left⟩, tape'⟩, h, hids⟩ := Option.map_eq_some_iff.mp hdrawn
  obtain ⟨hlisting, hleft⟩ := generate_channel_filtered interleaved "Tech" curious
  obtain ⟨-, -, hothers⟩ := hleft _ _ _ _ h
  obtain ⟨helements, harticles⟩ := Prod.mk.inj hids
  refine ⟨elements, left, tape', h, ?_, helements, harticles, hothers⟩
  rw [hlisting]
  exact Draw.map_eq_some h

end Block

end NewsFeed
