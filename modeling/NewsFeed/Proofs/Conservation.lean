/-
A run neither loses nor doubles an article.

While a run goes on, the articles of its elements and those left in the pool are, together, the
articles it started with (`Conserved`).  Every step keeps this, whatever scope it draws from and
whatever is drawn.

* `Reaches.conserved` — the invariant holds in every state of a run;
* `make_conserves` — what follows for the run returned: its articles stand at different places among
  those with a positive weight, and its counts are the numbers of articles they name.

Design notes: equal articles may stand in a pool more than once, so the invariant is a permutation
and not an equality of sets.
-/
import NewsFeed.Proofs.Runs

namespace NewsFeed.Run

variable {settings : Settings} {snapshot : Snapshot} {tape tape' : Tape}

/-- Whether a run in the middle has moved articles out of `pool` and done nothing else to them. -/
structure Progress.Conserved (pool : List Article) (progress : Progress) : Prop where
  perm : (progress.run.elements.flatMap Element.articles ++ progress.snapshot.articles).Perm pool
  consumed : progress.run.consumed = (progress.run.elements.flatMap Element.articles).length

namespace Progress

theorem conserved_start (snapshot : Snapshot) (settings : Settings) :
    (start snapshot settings).Conserved (screened snapshot settings).articles :=
  ⟨List.Perm.refl _, rfl⟩

/-- A step moves articles from the pool to the end of the feed. -/
theorem Conserved.record {pool : List Article} {progress : Progress} {produced : List Element}
    {snapshot' : Snapshot} (h : progress.Conserved pool)
    (hperformed : Performed settings progress.snapshot progress.step produced snapshot') :
    (progress.record produced snapshot').Conserved pool where
  perm := by
    have hmoved := hperformed.perm.append_left (progress.run.elements.flatMap Element.articles)
    rw [← List.append_assoc] at hmoved
    rw [record_elements, record_snapshot, List.flatMap_append]
    exact hmoved.trans h.perm
  consumed := by
    have hlength := hperformed.length_add
    have hconsumed := h.consumed
    rw [record_consumed, record_elements, List.flatMap_append, List.length_append]
    omega

theorem Reaches.conserved {last : Progress}
    (h : Reaches settings (Progress.start snapshot settings) tape last tape') :
    last.Conserved (screened snapshot settings).articles :=
  h.induct (conserved_start snapshot settings) fun _ _ _ ih _ hperformed => ih.record hperformed

theorem Reaches.filteredOut {last : Progress}
    (h : Reaches settings (Progress.start snapshot settings) tape last tape') :
    last.run.filteredOut =
      snapshot.articles.length - (screened snapshot settings).articles.length :=
  h.induct (P := fun progress => progress.run.filteredOut = _) rfl fun _ _ _ ih _ _ => ih

end Progress

/-- The articles of a run, those inside clusters included, in their order. -/
def articles (run : Run) : List Article :=
  run.elements.flatMap Element.articles

/-- What a run shows is from the articles with weight that it was given. -/
theorem mem_screened_of_mem_articles {run : Run}
    (h : make snapshot settings tape = some (run, tape')) {article : Article}
    (hmem : article ∈ run.articles) : article ∈ (screened snapshot settings).articles := by
  obtain ⟨last, hreaches, -, rfl⟩ := make_reaches h
  exact hreaches.conserved.perm.subset (List.mem_append_left _ hmem)

/-- Articles that make up some of a pool stand at different places of it. -/
theorem exists_places {shown pool : List Article} (h : shown.Subperm pool) :
    ∃ place : Fin shown.length → Fin pool.length,
      Function.Injective place ∧ ∀ i, shown[i] = pool[place i] :=
  ⟨h.idxInj, h.idxInj_injective, fun _ => h.getElem_idxInj_eq_getElem.symm⟩

/-- Every run shows articles of positive weight, each at most as often as it was given.  It counts
them and those left out rightly, it says whether some were left over, and if none were it shows each
of them as often as it was given. -/
theorem make_conserves {run : Run} (h : make snapshot settings tape = some (run, tape')) :
    let pool := snapshot.articles.filter fun article =>
      0.0 < article.weight snapshot.signals settings
    (∃ place : Fin run.articles.length → Fin pool.length,
      Function.Injective place ∧ ∀ i, run.articles[i] = pool[place i]) ∧
    run.filteredOut = snapshot.articles.length - pool.length ∧
    run.consumed = run.articles.length ∧
    (run.terminatedByBound = true ↔ run.articles.length < pool.length) ∧
    ((snapshot.articles.map Article.id).Nodup → (run.articles.map Article.id).Nodup) ∧
    (run.terminatedByBound = false → run.articles.Perm pool) := by
  intro pool
  obtain ⟨last, hreaches, -, rfl⟩ := make_reaches h
  -- the invariant of the loop: what is shown and what is left make the pool
  have hperm : (last.close.articles ++ last.snapshot.articles).Perm pool :=
    hreaches.conserved.perm
  have hlength := hperm.length_eq
  rw [List.length_append] at hlength
  have hbound : last.close.terminatedByBound = !last.snapshot.articles.isEmpty := rfl
  have hsubperm : last.close.articles.Subperm pool :=
    (List.sublist_append_left _ _).subperm.trans hperm.subperm
  refine ⟨exists_places hsubperm, hreaches.filteredOut, hreaches.conserved.consumed, ?_, ?_, ?_⟩
  · rw [hbound, Bool.not_eq_true', List.isEmpty_eq_false_iff, ← List.length_pos_iff]
    omega
  · intro hids
    have hpool : (pool.map Article.id).Nodup := hids.sublist (List.filter_sublist.map _)
    -- no identifier of the pool comes twice, and the shown articles are a part of it
    have hboth := (hperm.map Article.id).nodup_iff.mpr hpool
    rw [List.map_append] at hboth
    exact (List.nodup_append.mp hboth).1
  · intro hnone
    -- a run that ended on its own has nothing left
    rw [hbound, Bool.not_eq_false', List.isEmpty_iff] at hnone
    rwa [hnone, List.append_nil] at hperm

/-- A signal of an article or channel that the user follows. -/
def followed : Signal where
  channelSubscribed := true
  sourceSubscribed := true
  channelVisits := 1.0
  sourceVisits := 1.0
  popRecency := 1.0

/-- A snapshot whose feed has parts of every kind, with one article that nothing is known of. -/
def varied : Snapshot where
  publishers := Dict.ofList [("p", ⟨"p", "p", "", [⟨"en_US", ["Tech"]⟩], .notModified⟩)]
  articles := [⟨"a", "p", "a", 0.0, none⟩, ⟨"b", "p", "b", 0.0, none⟩, ⟨"c", "q", "c", 0.0, none⟩,
    ⟨"d", "q", "d", 0.0, none⟩, ⟨"e", "q", "e", 0.0, none⟩, ⟨"f", "q", "f", 0.0, none⟩]
  signals := Dict.ofList [("a", followed), ("b", followed), ("c", followed), ("d", followed),
    ("e", followed), ("Tech", followed)]
  channels := [⟨"Tech"⟩]

/-- Settings under which a block is a hero alone. -/
def heroesOnly : Settings where
  blockMinInline := 0
  blockMaxInline := 0

/-- A tape whose words make every normal draw return at once. -/
def steadyTape : Tape where
  word _ := 0x8000000000000000

theorem make_varied :
    ∃ run tape', make varied heroesOnly steadyTape = some (run, tape') ∧
      run.iterations = 7 ∧ run.filteredOut = 1 ∧ run.consumed = 5 ∧ run.elements.length = 6 ∧
      run.terminatedByBound = false := by
  have hmake : (make varied heroesOnly steadyTape).map (fun result =>
      (result.1.iterations, result.1.filteredOut, result.1.consumed, result.1.elements.length,
        result.1.terminatedByBound)) = some (7, 1, 5, 6, false) := by
    decide +kernel
  obtain ⟨⟨run, tape'⟩, h, hresult⟩ := Option.map_eq_some_iff.mp hmake
  simp only [Prod.mk.injEq] at hresult
  exact ⟨run, tape', h, hresult⟩

theorem pool_varied : (varied.articles.filter fun article =>
    0.0 < article.weight varied.signals heroesOnly) = varied.articles.take 5 := by
  decide +kernel

theorem make_conserves_varied :
    ∃ run tape', make varied heroesOnly steadyTape = some (run, tape') ∧
      run.filteredOut = 1 ∧ run.consumed = run.articles.length ∧
      run.terminatedByBound = false ∧ (run.articles.map Article.id).Nodup ∧
      run.articles.Perm (varied.articles.take 5) := by
  obtain ⟨run, tape', h, -, hfiltered, -, -, hbound⟩ := make_varied
  obtain ⟨-, -, hconsumed, -, hids, hperm⟩ := make_conserves h
  have hall := hperm hbound
  rw [pool_varied] at hall
  exact ⟨run, tape', h, hfiltered, hconsumed, hbound, hids (by decide), hall⟩

end NewsFeed.Run
