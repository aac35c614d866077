/-
Blocks drawn by places, with every access checked.

A block can be kept in numbers alone: a list of places of the pool, of which some are picked, and
slots of that list where only some of the places are asked about.  Here every place and every slot
is looked up in a list that may be too short for it, and a look-up that finds nothing fails the
whole block; articles are removed from the pool one after the other, the last place first.

Nothing ever fails: the procedure is the one that draws candidates (`ByPlace.generate_eq`), and that
is the one that takes each article out of the pool at once (`generate_eq_drawBlock`).

* `ByPlace.generate_eq` — no place or slot lies outside the list that it is looked up in;
* `generate_drawn_from_pool` — a block is drawn by drawing and removing, and how long it is.
-/
import NewsFeed.Proofs.Pieces
import NewsFeed.Proofs.Removing

namespace NewsFeed

/-! ### Lists with checked access -/

section

variable {α β : Type}

/-- A list without the items at some places, which are removed one after the other; each has to be
a place of the list that is left by then. -/
def removeAll? : (places : List ℕ) → List α → Option (List α)
  | [], items => some items
  | place :: places, items =>
    if place < items.length then removeAll? places (items.eraseIdx place) else none

/-- Places before a list leave the whole list. -/
theorem filter_zipIdx_of_lt {start : ℕ} {places : List ℕ} (items : List α)
    (h : ∀ place ∈ places, place < start) :
    ((items.zipIdx start).filter fun item => item.2 ∉ places).map Prod.fst = items := by
  have hall : ((items.zipIdx start).filter fun item => item.2 ∉ places) = items.zipIdx start := by
    refine List.filter_eq_self.mpr fun item hmem => decide_eq_true fun hplace => ?_
    exact absurd (List.le_snd_of_mem_zipIdx hmem) (Nat.not_le.mpr (h _ hplace))
  rw [hall, List.zipIdx_map_fst]

/-- Removing an item leaves the items at the places before it where they are. -/
theorem filter_zipIdx_eraseIdx {place : ℕ} {places : List ℕ} {items : List α}
    (hlt : place < items.length) (h : ∀ other ∈ places, other < place) :
    (((items.eraseIdx place).zipIdx.filter fun item => item.2 ∉ places).map Prod.fst) =
      (items.zipIdx.filter fun item => item.2 ∉ place :: places).map Prod.fst := by
  have hsplit : items = items.take place ++ items[place] :: items.drop (place + 1) := by
    rw [List.getElem_cons_drop, List.take_append_drop]
  have hstart : (items.take place).length = place := by
    rw [List.length_take]
    omega
  have hfront : ((items.take place).zipIdx.filter fun item => item.2 ∉ place :: places) =
      (items.take place).zipIdx.filter fun item => item.2 ∉ places := by
    refine List.filter_congr fun item hmem => ?_
    have hitem := List.snd_lt_add_of_mem_zipIdx hmem
    have hne : item.2 ≠ place := by omega
    simp [hne]
  -- the items behind the place stay in both lists, since no other place lies there
  have hbehind := filter_zipIdx_of_lt (items.drop (place + 1)) h
  have hbehind' : (((items.drop (place + 1)).zipIdx (place + 1)).filter
      fun item => item.2 ∉ place :: places).map Prod.fst = items.drop (place + 1) := by
    refine filter_zipIdx_of_lt _ fun other hmem => ?_
    rcases List.mem_cons.mp hmem with rfl | hmem
    · exact Nat.lt_succ_self other
    · exact Nat.lt_succ_of_lt (h other hmem)
  rw [List.eraseIdx_eq_take_drop_succ, List.zipIdx_append, hstart, Nat.zero_add,
    List.filter_append, List.map_append, hbehind]
  conv_rhs => rw [hsplit]
  rw [List.zipIdx_append, hstart, Nat.zero_add, List.zipIdx_cons, List.filter_append, hfront,
    List.filter_cons_of_neg (by simp), List.map_append, hbehind']

/-- Removing the last place first leaves every other place to be removed where it is. -/
theorem removeAll?_eq {places : List ℕ} {items : List α} (hdescending : places.Pairwise (· > ·))
    (hlt : ∀ place ∈ places, place < items.length) :
    removeAll? places items =
      some ((items.zipIdx.filter fun item => item.2 ∉ places).map Prod.fst) := by
  induction places generalizing items with
  | nil => rw [removeAll?, filter_zipIdx_of_lt items fun _ hmem => absurd hmem List.not_mem_nil]
  | cons place places ih =>
    obtain ⟨hbelow, hdescending⟩ := List.pairwise_cons.mp hdescending
    have hplace := hlt place List.mem_cons_self
    have hleft : ∀ other ∈ places, other < (items.eraseIdx place).length := by
      intro other hmem
      have hother := hbelow other hmem
      rw [List.length_eraseIdx_of_lt hplace]
      omega
    rw [removeAll?, if_pos hplace, ih hdescending hleft, filter_zipIdx_eraseIdx hplace hbelow]

/-- Tests that all have an answer filter as their answers do. -/
theorem filterM_eq_filter {test : α → Option Bool} {kind : α → Bool} {items : List α}
    (h : ∀ item ∈ items, test item = some (kind item)) :
    items.filterM test = some (items.filter kind) := by
  have haux : ∀ passed, items.filterAuxM test passed =
      some ((items.filter kind).reverse ++ passed) := by
    induction items with
    | nil => exact fun passed => rfl
    | cons item items ih =>
      obtain ⟨hitem, hitems⟩ := List.forall_mem_cons.mp h
      intro passed
      rw [List.filterAuxM, hitem]
      simp only [Option.bind_eq_bind, Option.bind_some]
      rw [ih hitems]
      cases hkind : kind item <;> simp [hkind]
  rw [List.filterM, haux]
  simp

/-- The slots at which the items of a kind stand hold these items in their order. -/
theorem map_getElem?_filter_range (kind : α → Bool) (items : List α) :
    ((List.range items.length).filter fun slot => items[slot]?.any kind).map (items[·]?) =
      (items.filter kind).map some := by
  have hget : ∀ item ∈ items.zipIdx, items[item.2]? = some item.1 := fun item hmem =>
    List.mk_mem_zipIdx_iff_getElem?.mp hmem
  calc ((List.range items.length).filter fun slot => items[slot]?.any kind).map (items[·]?)
      = (items.zipIdx.filter fun item => items[item.2]?.any kind).map fun item =>
          items[item.2]? := by
        rw [List.range_eq_range', ← List.zipIdx_map_snd, List.filter_map, List.map_map]
        rfl
    _ = (items.zipIdx.filter fun item => kind item.1).map fun item => some item.1 := by
        have hkind : (items.zipIdx.filter fun item => items[item.2]?.any kind) =
            items.zipIdx.filter fun item => kind item.1 :=
          List.filter_congr fun item hmem => by rw [hget item hmem, Option.any_some]
        rw [hkind]
        exact List.map_congr_left fun item hmem => hget item (List.mem_filter.mp hmem).1
    _ = (items.filter kind).map some := by
        conv_rhs => rw [← List.zipIdx_map_fst 0 items, List.filter_map, List.map_map]
        rfl

end

namespace Block

/-! ### The procedure by places -/

namespace ByPlace

/-- What a look-up found; one that found nothing fails. -/
def look {α : Type} (found : Option α) : OptionT Draw α :=
  OptionT.mk (pure found)

/-- Picks one of some places by the weights of their articles: the place, and the other places. -/
def pickPlace (pool : List Article) (weight : Article → Float) (places : List ℕ) :
    OptionT Draw (Option (ℕ × List ℕ)) := do
  let articles ← look (places.mapM (pool[·]?))
  match ← OptionT.lift (Draw.pickIndex (articles.map weight)) with
  | .ok slot => return some (← look places[slot]?, places.eraseIdx slot)
  | .error _ => return none

/-- The article of the pool at the place that a slot holds. -/
def articleAt? (pool : List Article) (places : List ℕ) (slot : ℕ) : Option Article := do
  pool[← places[slot]?]?

/-- Picks the place of an unvisited article by its score. The choice is among the slots that hold
the places of unvisited articles. -/
def pickDiscovery (signals : Signals) (pool : List Article) (places : List ℕ) :
    OptionT Draw (Option (ℕ × List ℕ)) := do
  let slots ← look ((List.range places.length).filterM fun slot =>
    return (← articleAt? pool places slot).isUnvisited signals)
  let articles ← look (slots.mapM (articleAt? pool places))
  match ← OptionT.lift (Draw.pickIndex (articles.map Article.score)) with
  | .ok choice =>
    let slot ← look slots[choice]?
    return some (← look places[slot]?, places.eraseIdx slot)
  | .error _ => return none

/-- Picks a discovery if a coin asks for one. -/
def tryDiscovery (signals : Signals) (settings : Settings) (pool : List Article)
    (places : List ℕ) : OptionT Draw (Option (ℕ × List ℕ)) := do
  if ← OptionT.lift (Draw.coin settings.inlineDiscoveryRatio) then
    pickDiscovery signals pool places
  else return none

/-- Picks an inline article: its place, whether it is a discovery, and the other places. -/
def pickInline (signals : Signals) (settings : Settings) (pool : List Article)
    (places : List ℕ) : OptionT Draw (Option (ℕ × Bool × List ℕ)) := do
  match ← tryDiscovery signals settings pool places with
  | some (place, others) => return some (place, true, others)
  | none =>
    match ← pickPlace pool (fun article => article.weight signals settings) places with
    | some (place, others) => return some (place, false, others)
    | none => return none

/-- Picks up to `count` inline articles. -/
def pickInlines (signals : Signals) (settings : Settings) (pool : List Article) :
    (count : ℕ) → List ℕ → OptionT Draw (List (ℕ × Bool))
  | 0, _ => return []
  | count + 1, places => do
    if places.isEmpty then return []
    match ← pickInline signals settings pool places with
    | some (place, isDiscover, others) =>
      return (place, isDiscover) :: (← pickInlines signals settings pool count others)
    | none => return []

/-- The element of an inline article that has been picked. -/
def inlineAt? (pool : List Article) (picked : ℕ × Bool) : Option ArticleElement :=
  return .inline (← pool[picked.1]?) picked.2

/-- The block of the articles picked, and the snapshot without them: they are removed from the pool
one by one, the last one first. -/
def assemble? (snapshot : Snapshot) (hero : ℕ) (inlines : List (ℕ × Bool)) :
    Option (List ArticleElement × Snapshot) := do
  let heroArticle ← snapshot.articles[hero]?
  let elements ← inlines.mapM (inlineAt? snapshot.articles)
  let taken := (hero :: inlines.map Prod.fst).mergeSort fun place place' => decide (place' ≤ place)
  let articles ← removeAll? taken snapshot.articles
  return (.hero heroArticle :: elements, { snapshot with articles })

/-- Draws a block by places. -/
def generate (snapshot : Snapshot) (scope : Scope) (settings : Settings) :
    OptionT Draw (List ArticleElement × Snapshot) := do
  let pool := snapshot.articles
  let places ← look ((List.range pool.length).filterM fun place =>
    return scope.admits snapshot.publishers (← pool[place]?))
  if places.isEmpty then return ([], snapshot)
  let count ← OptionT.lift (inlineCount settings)
  match ← pickPlace pool (fun article => article.weight snapshot.signals settings) places with
  | none => return ([], snapshot)
  | some (hero, others) =>
    let inlines ← pickInlines snapshot.signals settings pool count others
    look (assemble? snapshot hero inlines)

end ByPlace

/-! ### Places of candidates -/

/-- Whether candidates stand in a pool as they say. -/
def Stand (pool : List Article) (candidates : List Candidate) : Prop :=
  ∀ candidate ∈ candidates, pool[candidate.place]? = some candidate.article

theorem Stand.subset {pool : List Article} {candidates candidates' : List Candidate}
    (h : Stand pool candidates) (hsubset : candidates' ⊆ candidates) : Stand pool candidates' :=
  fun candidate hmem => h candidate (hsubset hmem)

theorem stand_ofPool (pool : List Article) : Stand pool (Candidate.ofPool pool) := by
  intro candidate hmem
  obtain ⟨⟨article, place⟩, hitem, rfl⟩ := List.mem_map.mp hmem
  exact List.mk_mem_zipIdx_iff_getElem?.mp hitem

namespace ByPlace

variable {α β : Type} {pool : List Article} {eligible : List Candidate} {signals : Signals}
  {settings : Settings} {weight : Article → Float}

theorem look_some (a : α) : look (some a) = pure a :=
  rfl

/-- What comes after a computation fails nowhere if it does not for any result that it can have. -/
theorem lift_bind_of_returned {m : Draw α} {f : α → OptionT Draw β} {f' : α → Draw β}
    (h : ∀ a, (∃ tape tape', m tape = some (a, tape')) → f a = OptionT.lift (f' a)) :
    OptionT.lift m >>= f = OptionT.lift (m >>= f') := by
  refine OptionT.ext ?_
  rw [OptionT.run_bind_lift, OptionT.run_lift, bind_assoc]
  refine Draw.bind_congr_of_returned fun a hreturned => ?_
  rw [h a hreturned, OptionT.run_lift]

theorem lift_map_bind {γ : Type} (k : α → β) (m : Draw α) (f : β → OptionT Draw γ) :
    OptionT.lift (k <$> m) >>= f = OptionT.lift m >>= fun a => f (k a) := by
  refine OptionT.ext ?_
  rw [OptionT.run_bind_lift, OptionT.run_bind_lift, bind_map_left]

theorem lift_bind_congr {m : Draw α} {f : α → OptionT Draw β} {f' : α → Draw β}
    (h : ∀ a, f a = OptionT.lift (f' a)) : OptionT.lift m >>= f = OptionT.lift (m >>= f') :=
  lift_bind_of_returned fun a _ => h a

/-- The place that is picked is one of the places there are. -/
theorem lt_of_pickIndex {weights : List Float} {place : ℕ} {tape tape' : Tape}
    (h : Draw.pickIndex weights tape = some (.ok place, tape')) : place < weights.length := by
  unfold Draw.pickIndex at h
  cases hlottery : Lottery.ofWeights weights with
  | error cause =>
    rw [hlottery] at h
    cases h
  | ok lottery =>
    rw [hlottery] at h
    cases h
    obtain ⟨weight, hget, -⟩ := Lottery.winner_weight_pos hlottery (tape.word tape.used)
    exact (List.getElem?_eq_some_iff.mp hget).1

theorem mapM_place (h : Stand pool eligible) :
    (eligible.map Candidate.place).mapM (pool[·]?) = some (eligible.map Candidate.article) := by
  rw [List.mapM_map]
  exact mapM_eq_map h

theorem articleAt?_place (h : Stand pool eligible) (slot : ℕ) :
    articleAt? pool (eligible.map Candidate.place) slot = eligible[slot]?.map Candidate.article := by
  rw [articleAt?, List.getElem?_map]
  cases hslot : eligible[slot]? with
  | none => rfl
  | some candidate => exact h candidate (List.mem_of_getElem? hslot)

/-- Picking a place is picking a candidate. -/
theorem pickPlace_place (h : Stand pool eligible) (weight : Article → Float) :
    pickPlace pool weight (eligible.map Candidate.place) =
      OptionT.lift ((fun drawn => drawn.toOption.map
        (Prod.map Candidate.place (List.map Candidate.place))) <$>
          Draw.pick eligible (fun candidate => weight candidate.article)) := by
  rw [pickPlace, mapM_place h, look_some, pure_bind, Draw.pick, List.map_map, map_bind]
  refine lift_bind_of_returned fun result hreturned => ?_
  cases result with
  | error cause => rfl
  | ok slot =>
    obtain ⟨tape, tape', hpick⟩ := hreturned
    have hslot : slot < eligible.length := by simpa using lt_of_pickIndex hpick
    dsimp only
    rw [List.getElem?_map, List.getElem?_eq_getElem hslot, Option.map_some, look_some, pure_bind,
      List.eraseIdx_map]
    rfl

theorem pickPlace_weight (h : Stand pool eligible) (signals : Signals) (settings : Settings) :
    pickPlace pool (fun article => article.weight signals settings)
        (eligible.map Candidate.place) =
      OptionT.lift (Option.map (Prod.map Candidate.place (List.map Candidate.place)) <$>
        pickByWeight signals settings eligible) := by
  rw [pickPlace_place h, pickByWeight_eq, Functor.map_map]

/-- The slots of the unvisited articles hold the candidates that are unvisited. -/
theorem pickDiscovery_place (h : Stand pool eligible)
    (hnodup : (eligible.map Candidate.place).Nodup) (signals : Signals) :
    pickDiscovery signals pool (eligible.map Candidate.place) =
      OptionT.lift (Option.map (Prod.map Candidate.place (List.map Candidate.place)) <$>
        Block.pickDiscovery signals eligible) := by
  obtain ⟨unvisited, hunvisited⟩ : ∃ unvisited, unvisited =
      eligible.filter fun candidate => candidate.article.isUnvisited signals := ⟨_, rfl⟩
  obtain ⟨slots, hslots⟩ : ∃ slots, slots = (List.range eligible.length).filter
      fun slot => eligible[slot]?.any fun candidate => candidate.article.isUnvisited signals :=
    ⟨_, rfl⟩
  have hheld : slots.map (eligible[·]?) = unvisited.map some := by
    rw [hslots, hunvisited]
    exact map_getElem?_filter_range _ eligible
  have htested : ((List.range (eligible.map Candidate.place).length).filterM fun slot =>
      (do return (← articleAt? pool (eligible.map Candidate.place) slot).isUnvisited signals)) =
        some slots := by
    rw [List.length_map, hslots]
    refine filterM_eq_filter fun slot hmem => ?_
    rw [articleAt?_place h, List.getElem?_eq_getElem (List.mem_range.mp hmem)]
    rfl
  have harticles : slots.mapM (articleAt? pool (eligible.map Candidate.place)) =
      some (unvisited.map Candidate.article) := by
    have hfind : articleAt? pool (eligible.map Candidate.place) =
        Option.map Candidate.article ∘ (eligible[·]?) := funext (articleAt?_place h)
    rw [hfind, ← List.mapM_map, hheld, List.mapM_map]
    exact mapM_eq_map fun candidate _ => rfl
  rw [pickDiscovery, htested, look_some, pure_bind, harticles, look_some, pure_bind,
    pickDiscovery_eq, ← hunvisited, Functor.map_map, Draw.pick, List.map_map, map_bind]
  refine lift_bind_of_returned fun result hreturned => ?_
  cases result with
  | error cause => rfl
  | ok choice =>
    obtain ⟨tape, tape', hpick⟩ := hreturned
    have hchoice : choice < unvisited.length := by simpa using lt_of_pickIndex hpick
    have hpicked := List.getElem?_eq_getElem hchoice
    -- the slot chosen holds the candidate chosen
    have hslot := congrArg (·[choice]?) hheld
    simp only [List.getElem?_map, hpicked, Option.map_some, Option.map_eq_some_iff] at hslot
    obtain ⟨slot, hslot, hcandidate⟩ := hslot
    dsimp only
    rw [hpicked, hslot, look_some, pure_bind, List.getElem?_map, hcandidate, Option.map_some,
      look_some, pure_bind, List.eraseIdx_map, Candidate.eraseIdx_eq_without hnodup hcandidate]
    rfl

theorem tryDiscovery_place (h : Stand pool eligible)
    (hnodup : (eligible.map Candidate.place).Nodup) (signals : Signals) (settings : Settings) :
    tryDiscovery signals settings pool (eligible.map Candidate.place) =
      OptionT.lift (Option.map (Prod.map Candidate.place (List.map Candidate.place)) <$>
        Block.tryDiscovery signals settings eligible) := by
  rw [tryDiscovery, Block.tryDiscovery, map_bind]
  refine lift_bind_congr fun heads => ?_
  cases heads with
  | false => rfl
  | true => exact pickDiscovery_place h hnodup signals

theorem pickInline_place (h : Stand pool eligible)
    (hnodup : (eligible.map Candidate.place).Nodup) (signals : Signals) (settings : Settings) :
    pickInline signals settings pool (eligible.map Candidate.place) =
      OptionT.lift (Option.map (fun found =>
        (found.1.place, found.2.1, found.2.2.map Candidate.place)) <$>
          Block.pickInline signals settings eligible) := by
  rw [pickInline, Block.pickInline, tryDiscovery_place h hnodup, lift_map_bind, map_bind]
  refine lift_bind_congr fun discovery => ?_
  cases discovery with
  | some found => rfl
  | none =>
    dsimp only [Option.map]
    rw [pickPlace_weight h, lift_map_bind, map_bind]
    refine lift_bind_congr fun drawn => ?_
    cases drawn <;> rfl

/-- Picking places is filling slots with candidates. -/
theorem pickInlines_place (h : Stand pool eligible)
    (hnodup : (eligible.map Candidate.place).Nodup) (count : ℕ) :
    pickInlines signals settings pool count (eligible.map Candidate.place) =
      OptionT.lift (List.map (Prod.map Candidate.place id) <$>
        fillSlots signals settings count eligible) := by
  induction count generalizing eligible with
  | zero => rfl
  | succ count ih =>
    rw [pickInlines, fillSlots, List.isEmpty_map]
    split
    · rfl
    rw [pickInline_place h hnodup, lift_map_bind, map_bind]
    -- what is taken matters for the rest, which must stand at its places again
    refine lift_bind_of_returned fun slot hreturned => ?_
    cases slot with
    | none => rfl
    | some found =>
      obtain ⟨picked, isDiscover, others⟩ := found
      obtain ⟨tape, tape', hpick⟩ := hreturned
      obtain ⟨htakes, -⟩ := takes_of_pickInline hnodup hpick
      dsimp only [Option.map]
      rw [ih (h.subset htakes.sublist.subset) (htakes.nodup hnodup), lift_map_bind, map_bind]
      exact lift_bind_congr fun inlines => rfl

/-- The places in scope are those of the candidates. -/
theorem places_candidates (snapshot : Snapshot) (scope : Scope) :
    ((List.range snapshot.articles.length).filterM fun place =>
      (do return scope.admits snapshot.publishers (← snapshot.articles[place]?))) =
        some ((candidates snapshot scope).map Candidate.place) := by
  have hadmits : ∀ item ∈ snapshot.articles.zipIdx,
      (snapshot.articles[item.2]?.any fun article => scope.admits snapshot.publishers article) =
        scope.admits snapshot.publishers item.1 := by
    intro item hmem
    rw [List.mk_mem_zipIdx_iff_getElem?.mp hmem, Option.any_some]
  calc _ = some ((List.range snapshot.articles.length).filter fun place =>
        snapshot.articles[place]?.any fun article =>
          scope.admits snapshot.publishers article) := by
        refine filterM_eq_filter fun place hmem => ?_
        rw [List.getElem?_eq_getElem (List.mem_range.mp hmem)]
        rfl
    _ = _ := by
        rw [List.range_eq_range', ← List.zipIdx_map_snd, List.filter_map, candidates,
          Candidate.ofPool, List.filter_map, List.map_map]
        exact congrArg some (congrArg _ (List.filter_congr hadmits))

/-- Removing the places of candidates leaves the articles at the other places. -/
theorem removeAll?_places {taken : List Candidate}
    (htaken : taken.Subperm (Candidate.ofPool pool)) :
    removeAll? ((taken.map Candidate.place).mergeSort fun place place' => decide (place' ≤ place))
      pool = some (Candidate.left pool (taken.map Candidate.place)) := by
  have hsorted := @List.pairwise_mergeSort ℕ (fun place place' => decide (place' ≤ place))
    (by simpa using fun a b c hab hbc => le_trans hbc hab) (by simpa using fun a b => le_total b a)
    (taken.map Candidate.place)
  have hperm := List.mergeSort_perm (taken.map Candidate.place)
    fun place place' => decide (place' ≤ place)
  have hnodup := Candidate.nodup_place_of_subperm htaken
  have hlt : ∀ place ∈ taken.map Candidate.place, place < pool.length := by
    intro place hmem
    obtain ⟨candidate, hcandidate, rfl⟩ := List.mem_map.mp hmem
    exact (List.getElem?_eq_some_iff.mp (stand_ofPool pool _ (htaken.subset hcandidate))).1
  rw [removeAll?_eq ((hsorted.and (hperm.nodup_iff.mpr hnodup)).imp fun ⟨hle, hne⟩ =>
      lt_of_le_of_ne (of_decide_eq_true hle) hne.symm) fun place hmem => hlt place (hperm.subset hmem),
    Candidate.left_eq_filter_zipIdx]
  refine congrArg some (congrArg _ (List.filter_congr fun item _ => ?_))
  simp

/-- Assembling a block from the places of candidates finds their articles. -/
theorem assemble?_place {snapshot : Snapshot} {hero : Candidate} {inlines : List (Candidate × Bool)}
    (htaken : (hero :: inlines.map Prod.fst).Subperm (Candidate.ofPool snapshot.articles)) :
    assemble? snapshot hero.place (inlines.map (Prod.map Candidate.place id)) =
      some (assemble snapshot hero inlines) := by
  have hstand := (stand_ofPool snapshot.articles).subset htaken.subset
  have hinlines : (inlines.map (Prod.map Candidate.place id)).mapM (inlineAt? snapshot.articles) =
      some (inlines.map fun inline => .inline inline.1.article inline.2) := by
    rw [List.mapM_map]
    refine mapM_eq_map fun inline hmem => ?_
    show inlineAt? snapshot.articles (inline.1.place, inline.2) = _
    rw [inlineAt?, hstand inline.1 (List.mem_cons_of_mem _ (List.mem_map_of_mem hmem))]
    rfl
  -- the hero and the inlines are removed from the pool together
  have hplaces : hero.place :: (inlines.map (Prod.map Candidate.place id)).map Prod.fst =
      (hero :: inlines.map Prod.fst).map Candidate.place := by
    rw [List.map_map, List.map_cons, List.map_map]
    rfl
  rw [assemble?, hstand hero List.mem_cons_self, hinlines, hplaces]
  simp only [Option.bind_eq_bind, Option.bind_some, removeAll?_places htaken]
  rw [assemble, List.map_cons, List.map_map]
  rfl

/-- A block drawn by places is the block drawn with candidates: no look-up fails. -/
theorem generate_eq (snapshot : Snapshot) (scope : Scope) (settings : Settings) :
    generate snapshot scope settings = OptionT.lift (Block.generate snapshot scope settings) := by
  have hstand : Stand snapshot.articles (candidates snapshot scope) :=
    (stand_ofPool snapshot.articles).subset (List.filter_subset_self _)
  have hnodup := nodup_place_candidates snapshot scope
  rw [generate, Block.generate, places_candidates, look_some, pure_bind, List.isEmpty_map]
  split
  · rfl
  refine lift_bind_congr fun count => ?_
  -- both draw from the same weights, place by place
  rw [pickPlace_weight hstand, lift_map_bind]
  refine lift_bind_of_returned fun drawn hreturned => ?_
  cases drawn with
  | none => rfl
  | some found =>
    obtain ⟨hero, others⟩ := found
    obtain ⟨tape, tape', hpick⟩ := hreturned
    have htakes := takes_of_pickByWeight hpick
    dsimp only [Option.map, Prod.map]
    rw [pickInlines_place (hstand.subset htakes.sublist.subset) (htakes.nodup hnodup),
      lift_map_bind]
    refine lift_bind_of_returned fun inlines hreturned => ?_
    obtain ⟨tape, tape', hfill⟩ := hreturned
    obtain ⟨hsubperm, -⟩ := subperm_of_fillSlots (htakes.nodup hnodup) hfill
    -- hero and inlines are different candidates of the pool
    have htaken := (htakes.subperm hsubperm).trans List.filter_sublist.subperm
    rw [assemble?_place htaken]
    rfl

end ByPlace

/-- **A block is drawn by drawing and removing.**  It takes each of its articles out of those in
scope that are left at that time, and no place or slot that it is kept by lies outside its list.
Without an article in scope nothing is drawn; else the block has as many articles as were asked for
or as there are, or those that are left cannot be drawn from by weight. -/
theorem generate_drawn_from_pool (snapshot : Snapshot) (scope : Scope) (settings : Settings) :
    generate snapshot scope settings = drawBlock snapshot scope settings ∧
    ByPlace.generate snapshot scope settings =
      OptionT.lift (generate snapshot scope settings) ∧
    ∀ tape elements left tape',
      generate snapshot scope settings tape = some ((elements, left), tape') →
        (snapshot.articlesIn scope = [] ∧ elements = [] ∧ left = snapshot ∧ tape' = tape) ∨
        (snapshot.articlesIn scope ≠ [] ∧
          ∃ count mid, inlineCount settings tape = some (count, mid) ∧
            (elements.length = min (snapshot.articlesIn scope).length (1 + count) ∨
              elements.length < min (snapshot.articlesIn scope).length (1 + count) ∧
                left.articlesIn scope ≠ [] ∧
                ∃ cause, Lottery.ofWeights ((left.articlesIn scope).map
                  fun article => article.weight left.signals settings) = .error cause)) := by
  refine ⟨generate_eq_drawBlock snapshot scope settings,
    ByPlace.generate_eq snapshot scope settings, fun tape elements left tape' h => ?_⟩
  rw [generate_eq_drawBlock] at h
  by_cases hempty : snapshot.articlesIn scope = []
  · refine .inl ⟨hempty, ?_⟩
    rw [drawBlock_of_isEmpty hempty] at h
    cases h
    exact ⟨rfl, rfl, rfl⟩
  · refine .inr ⟨hempty, ?_⟩
    -- the hero counts as the first of the elements
    obtain ⟨count, mid, hcount, hlength, hle, hopen⟩ := length_of_drawBlock hempty h
    refine ⟨count, mid, hcount, ?_⟩
    by_cases hshort : elements.length < min (snapshot.articlesIn scope).length (1 + count)
    · -- fewer than there could be: the draw has failed with articles left
      obtain ⟨hfew, hopened⟩ := lt_min_iff.mp hshort
      refine .inr ⟨hshort, fun hnil => ?_, hopen hopened⟩
      rw [hnil, List.length_nil] at hlength
      omega
    · exact .inl (by omega)

theorem generate_drawn_from_pool_interleaved :
    ∃ elements left tape',
      drawBlock interleaved (.channel "Tech") curious Run.steadyTape =
        some ((elements, left), tape') ∧
      ByPlace.generate interleaved (.channel "Tech") curious Run.steadyTape =
        some (some (elements, left), tape') ∧
      left.articles.map Article.id = ["c", "a", "d", "e"] ∧
      ∃ count mid, inlineCount curious Run.steadyTape = some (count, mid) ∧
        elements.length = min 4 (1 + count) := by
  have hdrawn : (generate interleaved (.channel "Tech") curious Run.steadyTape).map
      (fun made => (made.1.2.articles.map Article.id,
        (Lottery.ofWeights ((made.1.2.articlesIn (.channel "Tech")).map
          fun article => article.weight made.1.2.signals curious)).isOk)) =
      some (["c", "a", "d", "e"], true) := by
    decide +kernel
  have hscope : (interleaved.articlesIn (.channel "Tech")).length = 4 := by decide +kernel
  obtain ⟨⟨⟨elements, left⟩, tape'⟩, h, hleft⟩ := Option.map_eq_some_iff.mp hdrawn
  obtain ⟨harticles, hgood⟩ := Prod.mk.inj hleft
  obtain ⟨hpool, hplaces, hlength⟩ :=
    generate_drawn_from_pool interleaved (.channel "Tech") curious
  refine ⟨elements, left, tape', hpool ▸ h, ?_, harticles, ?_⟩
  · rw [hplaces]
    exact Draw.map_eq_some h
  · rcases hlength _ _ _ _ h with ⟨hnone, -⟩ | ⟨-, count, mid, hcount, hexact | ⟨-, -, cause, hbad⟩⟩
    · rw [hnone] at hscope
      cases hscope
    · exact ⟨count, mid, hcount, hscope ▸ hexact⟩
    · rw [hbad] at hgood
      cases hgood

end Block

end NewsFeed
