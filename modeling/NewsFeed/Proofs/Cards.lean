/-
When special cards come, and what they carry.

A card is made in every card step whose iteration the interval of the settings divides, and in no
other step; the draw only decides which of the two cards it is.  The card steps are the iterations
4, 7, 10 and so on, so two periods decide together where the cards are (`Card.ComesAt`).  If the
interval is a multiple of 3 they never meet, although such an interval passes the check.

A discover card takes publishers from the front of the suggestions, and nothing else touches them.
So the discover cards of a run cut the suggestions into pieces of one size, of which the last ones
may be short or empty.

* `perform_fits` — an iteration at which a card comes makes one card and nothing else, and any other
  makes none;
* `make_spaces_cards` — what each iteration of a run made, and how many cards there are;
* `perform_suggested` — a step takes the next piece of the suggestions, for a discover card, or
  nothing;
* `make_suggests` — what the discover cards of a run carry.
-/
import NewsFeed.Proofs.Arrangement

namespace NewsFeed

/-! ### Where cards come -/

/-- The card steps. -/
theorem Step.scheduled_eq_specialCard_iff {iteration : ℕ} :
    scheduled iteration = .specialCard ↔ 4 ≤ iteration ∧ iteration % 3 = 1 := by
  match iteration with
  | 0 => decide
  | 1 => decide
  | n + 2 =>
    simp only [scheduled]
    split_ifs <;> simp <;> omega

namespace Card

variable {settings : Settings} {iteration : ℕ}

/-- Whether a card comes at an iteration. -/
def ComesAt (settings : Settings) (iteration : ℕ) : Prop :=
  4 ≤ iteration ∧ iteration % 3 = 1 ∧ 0 < settings.specialCardEveryN.toNat ∧
    settings.specialCardEveryN.toNat ∣ iteration

instance (settings : Settings) : DecidablePred (ComesAt settings) := fun _ =>
  inferInstanceAs (Decidable (_ ∧ _ ∧ _ ∧ _))

theorem isDue_iff : isDue settings iteration = true ↔
    0 < settings.specialCardEveryN.toNat ∧ settings.specialCardEveryN.toNat ∣ iteration := by
  rw [isDue, Bool.and_eq_true, decide_eq_true_eq, decide_eq_true_eq, Nat.dvd_iff_mod_eq_zero,
    Nat.pos_iff_ne_zero, ne_eq, ne_eq, ← UInt64.toNat_inj]
  rfl

/-- A card comes at a card step at which one is due. -/
theorem comesAt_iff : ComesAt settings iteration ↔
    Step.nth iteration = .specialCard ∧ isDue settings iteration = true := by
  rw [Step.nth_eq_scheduled, Step.scheduled_eq_specialCard_iff, isDue_iff, and_assoc]
  rfl

/-- Every third iteration is a card step, and it is never a multiple of 3. -/
theorem not_comesAt_of_three_dvd (h : 3 ∣ settings.specialCardEveryN.toNat) :
    ¬ ComesAt settings iteration := by
  rintro ⟨-, hmod, -, hdvd⟩
  obtain ⟨k, rfl⟩ := h.trans hdvd
  omega

/-- Whether what an iteration made is one card if a card comes there, and has no card otherwise. -/
structure Fits (settings : Settings) (iteration : ℕ) (produced : List Element) : Prop where
  card : ComesAt settings iteration →
    ∃ card, produced = [card] ∧ card.isSpecialCard = true
  noCard : ¬ ComesAt settings iteration → ∀ element ∈ produced, element.isSpecialCard = false

theorem Fits.countP {produced : List Element} (h : Fits settings iteration produced) :
    produced.countP Element.isSpecialCard = if ComesAt settings iteration then 1 else 0 := by
  split_ifs with hcomes
  · obtain ⟨card, rfl, hspecial⟩ := h.card hcomes
    simp [hspecial]
  · refine List.countP_eq_zero.mpr fun element hmem => ?_
    simp [h.noCard hcomes element hmem]

end Card

/-! ### What a card carries -/

namespace Element

/-- The publishers that a part of a feed suggests, if it is a discover card. -/
def suggested? : Element → Option (List Publisher)
  | .discover publishers => some publishers
  | _ => none

theorem suggested?_ofArticleElement (element : ArticleElement) :
    (ofArticleElement element).suggested? = none := by
  cases element <;> rfl

end Element

/-- Piece `j` of suggestions that are cut into pieces of one size. -/
def Card.piece (suggested : List Publisher) (size j : ℕ) : List Publisher :=
  (suggested.drop (j * size)).take size

namespace Card

variable (suggested : List Publisher) (size : ℕ)

theorem length_piece (j : ℕ) : (piece suggested size j).length =
    min size (suggested.length - min (j * size) suggested.length) := by
  rw [piece, List.length_take, List.length_drop]
  omega

/-- The first pieces together are the beginning of the suggestions. -/
theorem flatten_pieces (count : ℕ) :
    ((List.range count).map (piece suggested size)).flatten = suggested.take (count * size) := by
  induction count with
  | zero => simp
  | succ count ih =>
    rw [List.range_succ, List.map_append, List.flatten_append, ih, Nat.succ_mul, List.take_add]
    simp [piece]

end Card

namespace Run

variable {settings : Settings} {snapshot snapshot' : Snapshot} {step : Step}
  {produced : List Element} {tape tape' : Tape}

/-! ### Steps -/

/-- What a card step makes, and when. -/
theorem perform_card {iteration : ℕ}
    (h : perform .specialCard iteration snapshot settings tape =
      some ((produced, snapshot'), tape')) :
    Card.isDue settings iteration = false ∧ produced = [] ∨
    Card.isDue settings iteration = true ∧
      ∃ card, produced = [card] ∧ card.isSpecialCard = true := by
  obtain ⟨⟨element, snapshot''⟩, mid, hmade, hrest⟩ := Draw.bind_eq_some.mp h
  cases hrest
  rcases card_cases hmade with ⟨hdue, rfl, -⟩ | ⟨hdue, rfl, -⟩ | ⟨hdue, rfl, -⟩
  · exact .inl ⟨hdue, rfl⟩
  · exact .inr ⟨hdue, _, rfl, rfl⟩
  · exact .inr ⟨hdue, _, rfl, rfl⟩

/-- Only a card step makes a card. -/
theorem perform_noCard {iteration : ℕ} (hstep : step ≠ .specialCard)
    (h : perform step iteration snapshot settings tape = some ((produced, snapshot'), tape')) :
    ∀ element ∈ produced, element.isSpecialCard = false := by
  intro element hmem
  by_contra hspecial
  have hnil := Element.articles_of_isSpecialCard (by simpa using hspecial)
  rcases (perform_batch h).taken_or_kept with ⟨-, -, hcarry⟩ | ⟨-, rfl⟩ | ⟨-, hcard, -⟩
  · exact hcarry element hmem hnil
  · cases hmem
  · exact hstep hcard

/-- What the step of an iteration makes is a card if one comes there, and has none otherwise. -/
theorem perform_fits {iteration : ℕ} (hstep : step = Step.nth iteration)
    (h : perform step iteration snapshot settings tape = some ((produced, snapshot'), tape')) :
    Card.Fits settings iteration produced := by
  by_cases hcard : step = .specialCard
  · have hnth : Step.nth iteration = .specialCard := hstep.symm.trans hcard
    subst hcard
    have hcomes : Card.ComesAt settings iteration ↔ Card.isDue settings iteration = true :=
      Card.comesAt_iff.trans (and_iff_right hnth)
    rcases perform_card h with ⟨hdue, rfl⟩ | ⟨hdue, hmade⟩
    · refine ⟨fun hcome => ?_, fun _ _ hmem => nomatch hmem⟩
      rw [hcomes, hdue] at hcome
      cases hcome
    · exact ⟨fun _ => hmade, fun hnot => absurd (hcomes.mpr hdue) hnot⟩
  · refine ⟨fun hcome => ?_, fun _ => perform_noCard hcard h⟩
    exact absurd (hstep.trans (Card.comesAt_iff.mp hcome).1) hcard

/-- A step makes a discover card of the next suggestions, or none and leaves the suggestions as they
are. -/
theorem perform_suggested {iteration : ℕ}
    (h : perform step iteration snapshot settings tape = some ((produced, snapshot'), tape')) :
    produced.filterMap Element.suggested? = [] ∧ snapshot'.suggested = snapshot.suggested ∨
    produced.filterMap Element.suggested? =
        [snapshot.suggested.take settings.discoverCardSize.toNat] ∧
      snapshot'.suggested = snapshot.suggested.drop settings.discoverCardSize.toNat := by
  rcases perform_cases h with ⟨scope, elements, -, rfl, hblock⟩ |
    ⟨rfl, element, rfl, hcluster⟩ | ⟨rfl, element, rfl, hcard⟩
  · -- blocks and clusters leave the snapshot as it is, apart from its articles
    refine .inl ⟨List.filterMap_eq_nil_iff.mpr fun element hmem => ?_, ?_⟩
    · obtain ⟨inner, -, rfl⟩ := List.mem_map.mp hmem
      exact Element.suggested?_ofArticleElement inner
    · rw [(Block.generate_made hblock).eq_withArticles]
  · rcases randomCluster_cases hcluster with
      ⟨rfl, rfl⟩ | ⟨channel, -, -, elements, mid, rfl, -, hblock⟩
    · exact .inl ⟨rfl, rfl⟩
    · exact .inl ⟨rfl, by rw [(Block.generate_made hblock).eq_withArticles]⟩
  · -- no card, an advert, or a discover card: only the last one takes suggestions
    rcases card_cases hcard with ⟨-, rfl, rfl⟩ | ⟨-, rfl, rfl⟩ | ⟨-, rfl, rfl⟩
    · exact .inl ⟨rfl, rfl⟩
    · exact .inl ⟨rfl, rfl⟩
    · exact .inr ⟨rfl, rfl⟩

/-! ### States of a run -/

/-- What each iteration of a run in the middle has made, and how many cards that were. -/
structure Progress.Spaced (settings : Settings) (progress : Progress) : Prop where
  parts : ∃ parts : List (List Element), parts.flatten = progress.run.elements ∧
    parts.map List.length = progress.run.steps.map StepTrace.produced ∧
    parts.length = progress.run.iterations ∧
    ∀ i part, parts[i]? = some part → Card.Fits settings i part
  count : progress.run.elements.countP Element.isSpecialCard =
    (List.range progress.run.iterations).countP (Card.ComesAt settings ·)

/-- The publishers that the discover cards of a run carry, card by card. -/
def suggestions (run : Run) : List (List Publisher) :=
  run.elements.filterMap Element.suggested?

/-- How a run in the middle has cut up the suggestions: into the pieces on its discover cards, and a
rest. -/
structure Progress.Suggesting (settings : Settings) (suggested : List Publisher)
    (progress : Progress) : Prop where
  pieces : progress.run.suggestions = (List.range progress.run.suggestions.length).map
    (Card.piece suggested settings.discoverCardSize.toNat)
  rest : progress.snapshot.suggested =
    suggested.drop (progress.run.suggestions.length * settings.discoverCardSize.toNat)

namespace Progress

variable {progress last : Progress}

theorem spaced_start (snapshot : Snapshot) (settings : Settings) :
    (start snapshot settings).Spaced settings :=
  ⟨⟨[], rfl, rfl, rfl, fun _ _ h => nomatch h⟩, rfl⟩

theorem Spaced.record (h : progress.Spaced settings)
    (hfits : Card.Fits settings progress.run.iterations produced) :
    (progress.record produced snapshot').Spaced settings where
  parts := by
    obtain ⟨parts, hflatten, hlengths, hcount, hall⟩ := h.parts
    refine ⟨parts ++ [produced], ?_, ?_, ?_, fun i part hi => ?_⟩
    · rw [List.flatten_append, hflatten, List.flatten_singleton, record_elements]
    · rw [List.map_append, hlengths, record_steps, List.map_append]
      rfl
    · rw [List.length_append, hcount, record_iterations]
      rfl
    · rcases Nat.lt_or_ge i parts.length with hlt | hge
      · exact hall i part (by rwa [List.getElem?_append_left hlt] at hi)
      · -- the last part is the one just made
        rw [List.getElem?_append_right hge, List.getElem?_singleton] at hi
        split_ifs at hi with hzero
        obtain rfl := Option.some_inj.mp hi
        obtain rfl : i = progress.run.iterations := by omega
        exact hfits
  count := by
    rw [record_elements, record_iterations, List.countP_append, h.count, List.range_succ,
      List.countP_append, hfits.countP]
    simp

theorem Reaches.spaced
    (h : Reaches settings (Progress.start snapshot settings) tape last tape') :
    last.Spaced settings :=
  h.induct_perform (spaced_start snapshot settings) fun _ _ _ _ _ hreaches ih _ hperform =>
    ih.record (perform_fits hreaches.tracked.step hperform)

theorem suggesting_start (snapshot : Snapshot) (settings : Settings) :
    (start snapshot settings).Suggesting settings snapshot.suggested :=
  ⟨rfl, by simp [start, suggestions, screened]⟩

theorem suggestions_record (progress : Progress) (produced : List Element)
    (snapshot' : Snapshot) : (progress.record produced snapshot').run.suggestions =
      progress.run.suggestions ++ produced.filterMap Element.suggested? := by
  rw [suggestions, record_elements, List.filterMap_append]
  rfl

theorem Suggesting.record {suggested : List Publisher}
    (h : progress.Suggesting settings suggested) {iteration : ℕ}
    (hperform : perform step iteration progress.snapshot settings tape =
      some ((produced, snapshot'), tape')) :
    (progress.record produced snapshot').Suggesting settings suggested := by
  rcases perform_suggested hperform with ⟨hnone, hkept⟩ | ⟨hpiece, hdropped⟩
  · have hsame : (progress.record produced snapshot').run.suggestions =
        progress.run.suggestions := by
      rw [suggestions_record, hnone, List.append_nil]
    refine ⟨?_, ?_⟩
    · rw [hsame]
      exact h.pieces
    · rw [hsame, record_snapshot, hkept]
      exact h.rest
  · -- the card is the next piece, since the suggestions of the earlier ones are already dropped
    have hnext : (progress.record produced snapshot').run.suggestions =
        progress.run.suggestions ++ [Card.piece suggested settings.discoverCardSize.toNat
          progress.run.suggestions.length] := by
      rw [suggestions_record, hpiece, h.rest]
      rfl
    refine ⟨?_, ?_⟩
    · rw [hnext, List.length_append, List.length_singleton, List.range_succ, List.map_append,
        ← h.pieces]
      rfl
    · rw [hnext, record_snapshot, hdropped, h.rest, List.drop_drop, List.length_append,
        List.length_singleton, Nat.succ_mul]

theorem Reaches.suggesting
    (h : Reaches settings (Progress.start snapshot settings) tape last tape') :
    last.Suggesting settings snapshot.suggested :=
  h.induct_perform (suggesting_start snapshot settings) fun _ _ _ _ _ _ ih _ hperform =>
    ih.record hperform

end Progress

/-! ### Runs -/

/-- The check of the settings accepts every interval but 0. -/
theorem check_withInterval {interval : UInt64} (hinterval : interval ≠ 0)
    (h : settings.check = .ok ()) :
    { settings with specialCardEveryN := interval }.check = .ok () := by
  obtain ⟨hratios, hblock, hvisits, -, hiterations⟩ := Settings.check_eq_ok_iff.mp h
  exact Settings.check_eq_ok_iff.mpr ⟨hratios, hblock, hvisits, hinterval, hiterations⟩

/-- The elements of a run fall into what its iterations made, as many each as the records say.  An
iteration at which a card comes made one card and nothing else, and the others made no card, so
there are as many cards as there are such iterations.  With an interval that is a multiple of 3
there is none, although the check accepts it. -/
theorem make_spaces_cards {run : Run} (h : make snapshot settings tape = some (run, tape')) :
    (∃ parts : List (List Element), parts.flatten = run.elements ∧
      parts.map List.length = run.steps.map StepTrace.produced ∧
      parts.length = run.iterations ∧
      ∀ i part, parts[i]? = some part → Card.Fits settings i part) ∧
    run.elements.countP Element.isSpecialCard =
      (List.range run.iterations).countP (Card.ComesAt settings ·) ∧
    (3 ∣ settings.specialCardEveryN.toNat →
      ∀ element ∈ run.elements, element.isSpecialCard = false) ∧
    (settings.specialCardEveryN ≠ 0 → ∀ others : Settings, others.check = .ok () →
      { others with specialCardEveryN := settings.specialCardEveryN }.check = .ok ()) := by
  obtain ⟨last, hreaches, -, rfl⟩ := make_reaches h
  have hspaced := hreaches.spaced
  refine ⟨hspaced.parts, hspaced.count, ?_, fun hne others => check_withInterval hne⟩
  intro hthree element hmem
  -- an interval that is a multiple of 3 never meets the card's turn in the cycle of three steps
  have hcount : last.run.elements.countP Element.isSpecialCard = 0 := by
    rw [hspaced.count]
    refine List.countP_eq_zero.mpr fun i _ => ?_
    simpa using Card.not_comesAt_of_three_dvd hthree
  simpa using List.countP_eq_zero.mp hcount element hmem

/-- The settings of `heroesOnly` with another interval. -/
def everyThird : Settings :=
  { heroesOnly with specialCardEveryN := 3 }

theorem make_spaces_cards_varied :
    (∃ run tape', make varied heroesOnly steadyTape = some (run, tape') ∧
      run.elements.countP Element.isSpecialCard = 1) ∧
    everyThird.check = .ok () ∧
    ∃ run tape', make varied everyThird steadyTape = some (run, tape') ∧ run.iterations = 7 ∧
      ∀ element ∈ run.elements, element.isSpecialCard = false := by
  refine ⟨?_, ?_, ?_⟩
  · obtain ⟨run, tape', h, hiterations, -⟩ := make_varied
    obtain ⟨-, hcount, -, -⟩ := make_spaces_cards h
    rw [hiterations] at hcount
    exact ⟨run, tape', h, hcount.trans (by decide)⟩
  · decide +kernel
  · have hmake : (make varied everyThird steadyTape).map (·.1.iterations) = some 7 := by
      decide +kernel
    obtain ⟨⟨run, tape'⟩, h, hiterations⟩ := Option.map_eq_some_iff.mp hmake
    obtain ⟨-, -, hnone, -⟩ := make_spaces_cards h
    exact ⟨run, tape', h, hiterations, hnone (by decide)⟩

/-- The discover cards of a run carry the suggestions from the front, each once and as many to a
card as the settings say while there are so many left.  At every point of a run the suggestions left
are those not on a card yet, and a step that makes no discover card leaves them as they are. -/
theorem make_suggests {run : Run} (h : make snapshot settings tape = some (run, tape')) :
    let size := settings.discoverCardSize.toNat
    run.suggestions.flatten <+: snapshot.suggested ∧
    (∀ j publishers, run.suggestions[j]? = some publishers → publishers.length =
      min size (snapshot.suggested.length - min (j * size) snapshot.suggested.length)) ∧
    (∀ progress mid,
      Progress.Reaches settings (Progress.start snapshot settings) tape progress mid →
        progress.snapshot.suggested =
          snapshot.suggested.drop (progress.run.suggestions.length * size)) ∧
    ∀ step iteration before mid produced after mid',
      perform step iteration before settings mid = some ((produced, after), mid') →
        produced.filterMap Element.suggested? = [] → after.suggested = before.suggested := by
  intro size
  obtain ⟨last, hreaches, -, rfl⟩ := make_reaches h
  have hpieces : last.close.suggestions = (List.range last.close.suggestions.length).map
      (Card.piece snapshot.suggested size) := hreaches.suggesting.pieces
  refine ⟨?_, ?_, fun progress mid hprogress => hprogress.suggesting.rest, ?_⟩
  · -- consecutive pieces make a prefix when put together
    rw [hpieces, Card.flatten_pieces]
    exact List.take_prefix _ _
  · intro j publishers hj
    rw [hpieces, List.getElem?_map, Option.map_eq_some_iff] at hj
    obtain ⟨i, hi, rfl⟩ := hj
    obtain ⟨hlt, rfl⟩ := List.getElem?_eq_some_iff.mp hi
    rw [List.getElem_range, Card.length_piece]
  · intro step iteration before mid produced after mid' hperform hnone
    rcases perform_suggested hperform with ⟨-, hkept⟩ | ⟨hpiece, -⟩
    · exact hkept
    · rw [hnone] at hpiece
      cases hpiece

/-- A snapshot of five equal articles and three suggestions. -/
def suggestive : Snapshot where
  suggested := [⟨"s", "s", "", [], .notModified⟩, ⟨"t", "t", "", [], .notModified⟩,
    ⟨"u", "u", "", [], .notModified⟩]
  articles := List.replicate 5 ⟨"a", "p", "a", 0.0, none⟩
  signals := Dict.ofList [("a", followed)]

/-- Settings under which every card step makes a discover card of two publishers. -/
def discoversOnly : Settings :=
  { heroesOnly with specialCardEveryN := 1, adsToDiscoverRatio := 0.0, discoverCardSize := 2 }

theorem make_suggests_suggestive :
    ∃ run tape', make suggestive discoversOnly steadyTape = some (run, tape') ∧
      run.suggestions.map List.length = [2, 1, 0] ∧
      run.suggestions.flatten <+: suggestive.suggested := by
  have hmake : (make suggestive discoversOnly steadyTape).map (·.1.suggestions.length) =
      some 3 := by
    decide +kernel
  obtain ⟨⟨run, tape'⟩, h, hlength⟩ := Option.map_eq_some_iff.mp hmake
  obtain ⟨hinitial, hpieces, -, -⟩ := make_suggests h
  obtain ⟨a, b, c, hcards⟩ := List.length_eq_three.mp hlength
  dsimp only at hcards
  rw [hcards] at hpieces
  refine ⟨run, tape', h, ?_, hinitial⟩
  rw [hcards, List.map_cons, List.map_cons, List.map_cons, hpieces 0 a rfl, hpieces 1 b rfl,
    hpieces 2 c rfl]
  rfl

end Run

end NewsFeed
