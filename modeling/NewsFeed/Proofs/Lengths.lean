/-
How many articles a block holds.

The number of inline articles that a block aims at comes out of a normal draw.  The draw itself has
no bounds, but its projection stays between the two numbers of the settings, taken as floats, and so
does the word that is nearest to the projection.  A block may fall short of what it aims at; it is
never longer.

* `inlineCount_bounds` — the number aimed at is in the bounds, whatever the normal draw was;
* `length_of_generate` — a block is a hero and no more inline articles than the upper bound;
* `Reaches.bounded` — the invariant that this is so for every block and cluster of a run.
-/
import NewsFeed.Proofs.Arrangement
import NewsFeed.Proofs.Projection
import NewsFeed.Proofs.Removing
import NewsFeed.Proofs.Wholes

namespace NewsFeed

/-! ### Blocks -/

namespace Block

open Binary64

variable {settings : Settings} {tape tape' : Tape}

/-- Bounds in order are so as floats. -/
theorem toFloat_le_toFloat {least greatest : UInt64} (h : least ≤ greatest) :
    least.toFloat ≤ greatest.toFloat := by
  obtain ⟨hfinite, hnumber⟩ := toFloat_spec least
  obtain ⟨hfinite', hnumber'⟩ := toFloat_spec greatest
  rw [le_iff, hnumber, hnumber', EReal.coe_le_coe_iff]
  refine ⟨isNaN_of_isFinite hfinite, isNaN_of_isFinite hfinite', nearest_mono ?_⟩
  exact_mod_cast UInt64.le_iff_toNat_le.mp h

/-- Whatever the normal draw was, the number of inline articles is in its bounds. -/
theorem inlineCount_bounds (h : settings.blockMinInline ≤ settings.blockMaxInline) {value : Float}
    (hnormal : Draw.normal tape = some (value, tape')) :
    ∃ count : UInt64, inlineCount settings tape = some (count.toNat, tape') ∧
      settings.blockMinInline.toFloat.toUInt64 ≤ count ∧
      count ≤ settings.blockMaxInline.toFloat.toUInt64 := by
  obtain ⟨hleast, hgreatest⟩ := project_bounds (toFloat_le_toFloat h) (0.5 + value / 4.0)
  exact ⟨_, Draw.bind_eq_some.mpr ⟨value, tape', hnormal, rfl⟩,
    nearestWord_bounds hleast hgreatest⟩

theorem inlineCount_le (h : settings.blockMinInline ≤ settings.blockMaxInline) {count : ℕ}
    (hcount : inlineCount settings tape = some (count, tape')) :
    count ≤ settings.blockMaxInline.toFloat.toUInt64.toNat := by
  obtain ⟨value, mid, hnormal, -⟩ := Draw.bind_eq_some.mp hcount
  obtain ⟨word, hword, -, hle⟩ := inlineCount_bounds h hnormal
  rw [hcount] at hword
  obtain ⟨rfl, -⟩ := Prod.mk.inj (Option.some.inj hword)
  exact UInt64.le_iff_toNat_le.mp hle

/-- A block is a hero and at most as many inline articles as it may have. -/
theorem length_of_generate (h : settings.blockMinInline ≤ settings.blockMaxInline)
    {snapshot left : Snapshot} {scope : Scope} {elements : List ArticleElement}
    (hgenerate : generate snapshot scope settings tape = some ((elements, left), tape')) :
    elements.length ≤ 1 + settings.blockMaxInline.toFloat.toUInt64.toNat := by
  rw [generate_eq_drawBlock] at hgenerate
  by_cases hempty : snapshot.articlesIn scope = []
  · rw [drawBlock_of_isEmpty hempty] at hgenerate
    cases hgenerate
    exact Nat.zero_le _
  · obtain ⟨count, mid, hcount, -, hlength, -⟩ := length_of_drawBlock hempty hgenerate
    exact hlength.trans (Nat.add_le_add_left (inlineCount_le h hcount) 1)

end Block

/-! ### Feeds -/

/-- Whether no block among the elements, and no cluster, has more articles than `limit`. -/
structure Element.Bounded (limit : ℕ) (elements : List Element) : Prop where
  block : ∀ hero inlines, Element.block hero inlines <:+: elements → 1 + inlines.length ≤ limit
  cluster : ∀ kind articles, .cluster kind articles ∈ elements → articles.length ≤ limit

namespace Element

variable {limit : ℕ} {elements produced : List Element}

theorem length_block (hero : Article) (inlines : List (Article × Bool)) :
    (block hero inlines).length = 1 + inlines.length := by
  rw [block, List.length_cons, List.length_map, Nat.add_comm]

theorem bounded_nil (limit : ℕ) : Bounded limit [] where
  block _ _ hpart := by cases List.infix_nil.mp hpart
  cluster _ _ hmem := nomatch hmem

/-- A block does not go on behind elements that were added later, as these do not start with an
inline article. -/
theorem block_infix_append {hero : Article} {inlines : List (Article × Bool)}
    (hhead : ∀ article isDiscover, produced.head? ≠ some (.inline article isDiscover))
    (h : block hero inlines <:+: elements ++ produced) :
    block hero inlines <:+: elements ∨ block hero inlines <:+: produced := by
  obtain ⟨before, after, heq⟩ := h
  rcases List.append_eq_append_iff.mp heq with ⟨rest, helements, -⟩ | ⟨added, hsplit, hproduced⟩
  · exact .inl ⟨before, rest, helements.symm⟩
  rcases List.append_eq_append_iff.mp hsplit with ⟨start, helements, hblock⟩ | ⟨rest, -, hadded⟩
  · -- the block is split in two: what is added starts in the middle of it, or not at all
    cases start with
    | nil => exact .inr ⟨[], after, by rw [hproduced, hblock]; rfl⟩
    | cons first start =>
      cases added with
      | nil => exact .inl ⟨before, [], by rw [hblock, helements]; simp⟩
      | cons next rest =>
        exfalso
        have hinlines : _ = start ++ next :: rest := (List.cons_eq_cons.mp hblock).2
        have hmem : next ∈ start ++ next :: rest := List.mem_append_right start List.mem_cons_self
        rw [← hinlines] at hmem
        obtain ⟨⟨article, isDiscover⟩, -, rfl⟩ := List.mem_map.mp hmem
        exact hhead article isDiscover (by rw [hproduced]; rfl)
  · exact .inr ⟨rest, after, by rw [hproduced, hadded]⟩

theorem Bounded.append (h : Bounded limit elements) (hproduced : Bounded limit produced)
    (hhead : ∀ article isDiscover, produced.head? ≠ some (.inline article isDiscover)) :
    Bounded limit (elements ++ produced) where
  block hero inlines hpart :=
    (block_infix_append hhead hpart).elim (h.block hero inlines) (hproduced.block hero inlines)
  cluster kind articles hmem :=
    (List.mem_append.mp hmem).elim (h.cluster kind articles) (hproduced.cluster kind articles)

end Element

/-- What a step adds does not start with an inline article. -/
theorem Batch.head?_ne_inline {step : Step} {before after : ℕ} {produced : List Element}
    (h : Batch step before after produced) (article : Article) (isDiscover : Bool) :
    produced.head? ≠ some (.inline article isDiscover) := by
  cases h with
  | nothing kept => exact nofun
  | block hero inlines place taken => exact nofun
  | cluster kind elements place nonempty taken => exact nofun
  | card element place special kept =>
    rintro ⟨⟩
    cases special

namespace Run

open Progress (Reaches)

variable {settings : Settings} {snapshot snapshot' : Snapshot} {produced : List Element}
  {tape tape' : Tape} {limit : ℕ}

/-- A block put into a feed. -/
theorem bounded_block {elements : List ArticleElement} (hlength : elements.length ≤ limit) :
    Element.Bounded limit (elements.map Element.ofArticleElement) where
  block hero inlines hpart := by
    have hle := hpart.length_le
    rw [Element.length_block, List.length_map] at hle
    exact hle.trans hlength
  cluster kind articles hmem := by
    obtain ⟨element, -, heq⟩ := List.mem_map.mp hmem
    cases element <;> cases heq

/-- A cluster or a card put into a feed. -/
theorem bounded_singleton {element : Element} (hhero : ∀ hero, element ≠ .hero hero)
    (hcluster : ∀ kind articles, element = .cluster kind articles → articles.length ≤ limit) :
    Element.Bounded limit [element] where
  block hero _ hpart :=
    absurd (List.mem_singleton.mp (hpart.subset List.mem_cons_self)).symm (hhero hero)
  cluster kind articles hmem := hcluster kind articles (List.mem_singleton.mp hmem).symm

/-- What is said of every block that can be drawn holds of what a step makes. -/
theorem perform_bounded {step : Step} {iteration : ℕ}
    (hblocks : ∀ scope mid mid' elements left,
      Block.generate snapshot scope settings mid = some ((elements, left), mid') →
        elements.length ≤ limit)
    (h : perform step iteration snapshot settings tape = some ((produced, snapshot'), tape')) :
    Element.Bounded limit produced := by
  rcases perform_cases h with ⟨scope, elements, -, rfl, hblock⟩ |
    ⟨rfl, element, rfl, hcluster⟩ | ⟨rfl, element, rfl, hcard⟩
  · exact bounded_block (hblocks _ _ _ _ _ hblock)
  · rcases randomCluster_cases hcluster with
      ⟨rfl, -⟩ | ⟨channel, -, -, elements, mid, rfl, -, hblock⟩
    · exact Element.bounded_nil limit
    · -- the articles of a cluster are those of one block
      refine bounded_singleton (fun _ heq => by cases heq) fun kind articles heq => ?_
      cases heq
      exact hblocks _ _ _ _ _ hblock
  · rcases card_cases hcard with ⟨-, rfl, -⟩ | ⟨-, rfl, -⟩ | ⟨-, rfl, -⟩
    · exact Element.bounded_nil limit
    · exact bounded_singleton (fun _ heq => by cases heq) fun _ _ heq => by cases heq
    · exact bounded_singleton (fun _ heq => by cases heq) fun _ _ heq => by cases heq

/-- No block of a run is longer than the settings allow. -/
theorem Progress.Reaches.bounded {last : Progress}
    (hle : settings.blockMinInline ≤ settings.blockMaxInline)
    (h : Reaches settings (Progress.start snapshot settings) tape last tape') :
    Element.Bounded (1 + settings.blockMaxInline.toFloat.toUInt64.toNat) last.run.elements := by
  refine h.induct_perform (P := fun progress => Element.Bounded _ progress.run.elements)
    (Element.bounded_nil _) fun progress produced snapshot' mid mid' _ hbounded _ hperform => ?_
  have hproduced := perform_bounded (fun _ _ _ _ _ => Block.length_of_generate hle) hperform
  rw [Progress.record_elements]
  exact hbounded.append hproduced (perform_batch hperform).head?_ne_inline

/-- **Blocks respect the bounds on their inline articles.**  The number that a block aims at lies
between the two bounds, taken as floats and back as words, whatever the normal draw returns; up to
`2 ^ 53` that changes no number.  So no block, by itself, in a cluster or anywhere in a feed, holds
more than a hero and the greatest number of inline articles. -/
theorem inline_bounds_kept (h : settings.blockMinInline ≤ settings.blockMaxInline) :
    (∀ tape value tape', Draw.normal tape = some (value, tape') →
      ∃ count : UInt64, Block.inlineCount settings tape = some (count.toNat, tape') ∧
        settings.blockMinInline.toFloat.toUInt64 ≤ count ∧
        count ≤ settings.blockMaxInline.toFloat.toUInt64 ∧
        (settings.blockMaxInline.toNat ≤ 2 ^ 53 →
          settings.blockMinInline ≤ count ∧ count ≤ settings.blockMaxInline)) ∧
    (settings.blockMaxInline.toNat ≤ 2 ^ 53 →
      (∀ snapshot scope tape elements left tape',
        Block.generate snapshot scope settings tape = some ((elements, left), tape') →
          elements.length ≤ 1 + settings.blockMaxInline.toNat) ∧
      (∀ snapshot channel tape kind elements left tape',
        Cluster.generate snapshot channel settings tape =
            some ((some (.cluster kind elements), left), tape') →
          elements.length ≤ 1 + settings.blockMaxInline.toNat) ∧
      ∀ snapshot tape run tape', make snapshot settings tape = some (run, tape') →
        Element.Bounded (1 + settings.blockMaxInline.toNat) run.elements) := by
  -- up to `2^53` a bound is its own float, so casting it there and back changes nothing
  have hexact (hgreatest : settings.blockMaxInline.toNat ≤ 2 ^ 53) :=
    Binary64.toUInt64_toFloat_of_le hgreatest
  refine ⟨fun tape value tape' hnormal => ?_, fun hgreatest => ⟨?_, ?_, ?_⟩⟩
  · obtain ⟨count, hcount, hlow, hhigh⟩ := Block.inlineCount_bounds h hnormal
    refine ⟨count, hcount, hlow, hhigh, fun hgreatest => ?_⟩
    -- the smaller bound is below `2^53` with the greater one
    have hleast : settings.blockMinInline.toNat ≤ 2 ^ 53 :=
      (UInt64.le_iff_toNat_le.mp h).trans hgreatest
    rw [Binary64.toUInt64_toFloat_of_le hleast] at hlow
    rw [hexact hgreatest] at hhigh
    exact ⟨hlow, hhigh⟩
  · intro snapshot scope tape elements left tape' hgenerate
    rw [← hexact hgreatest]
    exact Block.length_of_generate h hgenerate
  · intro snapshot channel tape kind elements left tape' hcluster
    obtain ⟨articles, hgenerate, ⟨-, heq⟩ | ⟨-, heq⟩⟩ := cluster_cases hcluster
    · cases heq
    · cases heq
      rw [← hexact hgreatest]
      exact Block.length_of_generate h hgenerate
  · intro snapshot tape run tape' hmake
    obtain ⟨last, hreaches, -, rfl⟩ := make_reaches hmake
    rw [← hexact hgreatest]
    exact hreaches.bounded h

theorem inline_bounds_kept_varied :
    (∃ value tape' count, Draw.normal steadyTape = some (value, tape') ∧
      Block.inlineCount {} steadyTape = some (count, tape') ∧ 1 ≤ count ∧ count ≤ 5) ∧
    ∃ run tape', make varied {} steadyTape = some (run, tape') ∧ run.elements.length = 5 ∧
      Element.Bounded 6 run.elements := by
  have hnormal : (Draw.normal steadyTape).map Prod.fst = some 0.0 := by decide +kernel
  have hmake : (make varied {} steadyTape).map (·.1.elements.length) = some 5 := by
    decide +kernel
  obtain ⟨⟨value, mid⟩, hvalue, -⟩ := Option.map_eq_some_iff.mp hnormal
  obtain ⟨⟨run, tape'⟩, h, hlength⟩ := Option.map_eq_some_iff.mp hmake
  obtain ⟨hcounts, hblocks⟩ := @inline_bounds_kept {} (by decide)
  obtain ⟨count, hcount, -, -, hbounds⟩ := hcounts _ _ _ hvalue
  obtain ⟨hleast, hgreatest⟩ := hbounds (by decide)
  obtain ⟨-, -, hfeed⟩ := hblocks (by decide)
  exact ⟨⟨value, mid, _, hvalue, hcount, UInt64.le_iff_toNat_le.mp hleast,
    UInt64.le_iff_toNat_le.mp hgreatest⟩, run, tape', h, hlength, hfeed _ _ _ _ h⟩

end Run

end NewsFeed
