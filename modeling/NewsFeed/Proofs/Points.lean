/-
Points among running sums.

A draw by weight names a point between 0 and the total, and takes the place whose running sums
enclose it: the sum before the place is at or below the point, and the sum up to it lies beyond.
Running sums of weights that are not negative ascend, so no two places enclose one point, and the
total lies beyond every point, so some place does.  Which one it is depends on the top 52 bits of
the word drawn alone, and grows with them.

* `encloses_iff` — the place that encloses a point is the first whose sum lies beyond it;
* `winner_eq_iff` — the winner is the place that encloses the point;
* `winner_mono` — more in the top bits of a word is no earlier a place;
* `pickIndex_follows_sums` — all of these for a draw from a list of weights.
-/
import NewsFeed.Proofs.Draws

namespace NewsFeed

open Binary64

/-! ### Running sums -/

section

variable {start : Float} {rest weights : List Float}

/-- The last of the running sums is the sum of all weights. -/
theorem getLast?_go (start : Float) (rest : List Float) :
    (runningSums.go start rest).getLast? = some (rest.foldl (· + ·) start) := by
  induction rest generalizing start with
  | nil => rfl
  | cons weight rest ih =>
    rw [runningSums.go, List.getLast?_cons, ih, Option.getD_some, List.foldl_cons]

theorem le_of_mem_go (hstart : 0.0 ≤ start) (hrest : ∀ weight ∈ rest, 0.0 ≤ weight) :
    ∀ sum ∈ runningSums.go start rest, start ≤ sum := by
  induction rest generalizing start with
  | nil =>
    intro sum hmem
    obtain rfl := List.mem_singleton.mp hmem
    exact le_refl_of_nonneg hstart
  | cons weight rest ih =>
    obtain ⟨hweight, hrest⟩ := List.forall_mem_cons.mp hrest
    intro sum hmem
    rcases List.mem_cons.mp hmem with rfl | hmem
    · exact le_refl_of_nonneg hstart
    · exact Binary64.le_trans (le_add_right hstart hweight)
        (ih (Binary64.add_nonneg hstart hweight) hrest sum hmem)

theorem pairwise_go (hstart : 0.0 ≤ start) (hrest : ∀ weight ∈ rest, 0.0 ≤ weight) :
    (runningSums.go start rest).Pairwise (· ≤ ·) := by
  induction rest generalizing start with
  | nil => exact List.pairwise_singleton _ _
  | cons weight rest ih =>
    obtain ⟨hweight, hrest⟩ := List.forall_mem_cons.mp hrest
    have hnext := Binary64.add_nonneg hstart hweight
    refine List.pairwise_cons.mpr ⟨fun sum hmem => ?_, ih hnext hrest⟩
    exact Binary64.le_trans (le_add_right hstart hweight) (le_of_mem_go hnext hrest sum hmem)

/-- The running sums of weights that are not negative ascend, and none is negative. -/
theorem pairwise_runningSums (h : ∀ weight ∈ weights, 0.0 ≤ weight) :
    (runningSums weights).Pairwise (· ≤ ·) ∧ ∀ sum ∈ runningSums weights, 0.0 ≤ sum := by
  cases weights with
  | nil => exact ⟨List.Pairwise.nil, fun _ hmem => nomatch hmem⟩
  | cons first rest =>
    obtain ⟨hfirst, hrest⟩ := List.forall_mem_cons.mp h
    exact ⟨pairwise_go hfirst hrest, fun sum hmem =>
      Binary64.le_trans hfirst (le_of_mem_go hfirst hrest sum hmem)⟩

end

namespace Lottery

/-! ### Enclosed points -/

/-- Whether the running sums enclose a point at a place: the sum before it, 0 at the first place, is
at or below the point, and the sum up to it lies beyond. -/
structure Encloses (weights : List Float) (point : Float) (place : ℕ) : Prop where
  before : ∃ sum, (0.0 :: runningSums weights)[place]? = some sum ∧ sum ≤ point
  upTo : ∃ sum, (runningSums weights)[place]? = some sum ∧ point < sum

/-- Where running sums ascend, the place that encloses a point is the first whose sum lies beyond
it. -/
theorem encloses_iff {weights : List Float} {point : Float} {place : ℕ}
    (hascending : (runningSums weights).Pairwise (· ≤ ·)) (hpoint : 0.0 ≤ point) :
    Encloses weights point place ↔
      ∃ hlt : place < (runningSums weights).length, point < (runningSums weights)[place] ∧
        ∀ earlier, (h : earlier < place) → (runningSums weights)[earlier] ≤ point := by
  constructor
  · rintro ⟨⟨before, hbefore, hle⟩, ⟨upTo, hupTo, hbeyond⟩⟩
    obtain ⟨hlt, rfl⟩ := List.getElem?_eq_some_iff.mp hupTo
    refine ⟨hlt, hbeyond, fun earlier hearlier => ?_⟩
    cases place with
    | zero => exact absurd hearlier (Nat.not_lt_zero earlier)
    | succ last =>
      obtain ⟨hlast, rfl⟩ := List.getElem?_eq_some_iff.mp hbefore
      -- the sums before the last one are no greater than it
      rcases Nat.lt_succ_iff_lt_or_eq.mp hearlier with hearlier | rfl
      · exact Binary64.le_trans
          (List.pairwise_iff_getElem.mp hascending _ _ _ (Nat.lt_of_succ_lt hlt) hearlier) hle
      · exact hle
  · rintro ⟨hlt, hbeyond, hle⟩
    refine ⟨?_, _, List.getElem?_eq_getElem hlt, hbeyond⟩
    cases place with
    | zero => exact ⟨0.0, rfl, hpoint⟩
    | succ last =>
      exact ⟨_, List.getElem?_eq_getElem (Nat.lt_of_succ_lt hlt), hle last last.lt_succ_self⟩

/-! ### The winner among the running sums -/

variable {weights : List Float} {lottery : Lottery}

theorem getLast?_runningSums (h : ofWeights weights = .ok lottery) :
    (runningSums weights).getLast? = some lottery.total := by
  cases weights with
  | nil => cases h
  | cons first rest =>
    obtain ⟨-, -, -, rfl⟩ := ofWeights_cons_eq_ok.mp h
    exact getLast?_go first rest

theorem bounds_eq (h : ofWeights weights = .ok lottery) :
    lottery.bounds = (runningSums weights).dropLast := by
  cases weights with
  | nil => cases h
  | cons first rest => rw [(ofWeights_cons_eq_ok.mp h).2.2.2]

theorem nonneg_of_ok (h : ofWeights weights = .ok lottery) : ∀ weight ∈ weights, 0.0 ≤ weight := by
  cases weights with
  | nil => cases h
  | cons first rest => exact fun weight hmem => ((ofWeights_cons_eq_ok.mp h).1 weight hmem).2

/-- The winner is the first place whose running sum does not lie at or below the point. -/
theorem winner_eq_findIdx (h : ofWeights weights = .ok lottery) (word : UInt64) :
    lottery.winner word =
      (runningSums weights).findIdx fun sum => !decide (sum ≤ lottery.point word) := by
  obtain ⟨hfinite, hpos⟩ := total_pos_of_ok h
  have hbeyond : decide (lottery.total ≤ lottery.point word) = false :=
    decide_eq_false fun hle => not_lt_of_le hle (point_lt_total hfinite hpos word).2
  have hsums := List.dropLast_append_getLast? _ (getLast?_runningSums h)
  -- the total, which has no place among the bounds, is never passed
  rw [winner, List.takeWhile_eq_take_findIdx_not, List.length_take, ← hsums, ← bounds_eq h,
    List.findIdx_append, List.findIdx_cons, hbeyond, Bool.not_false, cond_true, Nat.zero_add]
  have hle : lottery.bounds.findIdx (fun sum => !decide (sum ≤ lottery.point word)) ≤
      lottery.bounds.length := List.findIdx_le_length
  split_ifs <;> omega

/-- The winner is the one place whose running sums enclose the point. -/
theorem winner_eq_iff (h : ofWeights weights = .ok lottery) (word : UInt64) (place : ℕ) :
    lottery.winner word = place ↔ Encloses weights (lottery.point word) place := by
  obtain ⟨hfinite, hpos⟩ := total_pos_of_ok h
  obtain ⟨hpoint, hbeyond⟩ := point_lt_total hfinite hpos word
  obtain ⟨hascending, hnonneg⟩ := pairwise_runningSums (nonneg_of_ok h)
  have hlt_iff : ∀ sum ∈ runningSums weights,
      (!decide (sum ≤ lottery.point word)) = true ↔ lottery.point word < sum := by
    intro sum hmem
    rw [Bool.not_eq_true', decide_eq_false_iff_not]
    exact ⟨lt_of_not_le (nonneg_iff.mp (hnonneg sum hmem)).1 (nonneg_iff.mp hpoint).1,
      fun hlt hle => not_lt_of_le hle hlt⟩
  rw [encloses_iff hascending hpoint, winner_eq_findIdx h]
  constructor
  · intro hplace
    have hlt : place < (runningSums weights).length := by
      rw [← hplace, List.findIdx_lt_length]
      -- the last sum is the total, and the point lies below it
      have hmem := List.mem_of_getLast? (getLast?_runningSums h)
      exact ⟨_, hmem, (hlt_iff _ hmem).mpr hbeyond⟩
    obtain ⟨hfirst, hearlier⟩ := (List.findIdx_eq hlt).mp hplace
    exact ⟨hlt, (hlt_iff _ (List.getElem_mem hlt)).mp hfirst, fun earlier h => by
      simpa using hearlier earlier h⟩
  · rintro ⟨hlt, hfirst, hearlier⟩
    exact (List.findIdx_eq hlt).mpr ⟨(hlt_iff _ (List.getElem_mem hlt)).mpr hfirst,
      fun earlier h => by simpa using hearlier earlier h⟩

/-- A word with no less in its top bits names no smaller a point. -/
theorem point_mono (hfinite : lottery.total.isFinite = true) (hpos : 0.0 < lottery.total)
    {word word' : UInt64} (hle : word >>> 12 ≤ word' >>> 12) :
    lottery.point word ≤ lottery.point word' := by
  have hnonneg := scale_nonneg hfinite hpos
  have hscale := isFinite_of_le hnonneg (isScale_scale hfinite hpos).le hfinite
  obtain ⟨hfraction, hnumber⟩ := number_fraction52 word
  obtain ⟨hfraction', hnumber'⟩ := number_fraction52 word'
  have hfractions : fraction52 word ≤ fraction52 word' := by
    refine le_iff.mpr ⟨isNaN_of_isFinite hfraction, isNaN_of_isFinite hfraction', ?_⟩
    rw [hnumber, hnumber', EReal.coe_le_coe_iff]
    refine mul_le_mul_of_nonneg_right ?_ (by positivity)
    exact_mod_cast UInt64.le_iff_toNat_le.mp hle
  exact Binary64.le_trans (mul_le_mul_of_nonneg hfraction hfraction' hscale hfractions hnonneg)
    (mul_le_mul_swap hscale hfraction')

/-- The winner of a word with no less in its top bits stands at no earlier a place. -/
theorem winner_mono (h : ofWeights weights = .ok lottery) {word word' : UInt64}
    (hle : word >>> 12 ≤ word' >>> 12) : lottery.winner word ≤ lottery.winner word' := by
  obtain ⟨hfinite, hpos⟩ := total_pos_of_ok h
  obtain ⟨hascending, -⟩ := pairwise_runningSums (nonneg_of_ok h)
  have hencloses (word : UInt64) := (encloses_iff hascending
    (point_lt_total hfinite hpos word).1).mp ((winner_eq_iff h word _).mp rfl)
  by_contra hlater
  -- a later winner has passed the sum that lies beyond the other point
  obtain ⟨_, -, hpassed⟩ := hencloses word
  obtain ⟨_, hbeyond, -⟩ := hencloses word'
  have hle' := Binary64.le_trans (hpassed _ (Nat.lt_of_not_le hlater))
    (point_mono hfinite hpos hle)
  exact not_lt_of_le hle' hbeyond

/-- **A draw by weight follows the running sums.**  From weights that are finite and not negative,
that add up to a finite sum and of which one is positive, a single word draws a place of positive
weight: the place whose running sums enclose the fraction of the scale that the top 52 bits of the
word stand for.  Words with more in these bits draw no earlier places. -/
theorem pickIndex_follows_sums
    (hweights : ∀ weight ∈ weights, weight.isFinite = true ∧ 0.0 ≤ weight)
    (hpos : ∃ weight ∈ weights, 0.0 < weight) (hfinite : (sum weights).isFinite = true) :
    ∃ lottery, ofWeights weights = .ok lottery ∧
      (runningSums weights).getLast? = some lottery.total ∧
      IsScale lottery.total lottery.scale ∧
      (∀ tape : Tape, Draw.pickIndex weights tape = some
        (.ok (lottery.winner (tape.word tape.used)), { tape with used := tape.used + 1 })) ∧
      (∀ word, ∃ weight, weights[lottery.winner word]? = some weight ∧ 0.0 < weight) ∧
      (∀ word, number (fraction52 word) = (((word >>> 12).toNat * 2 ^ (-52 : ℤ) : ℝ) : EReal)) ∧
      (∀ word place, lottery.winner word = place ↔
        Encloses weights (fraction52 word * lottery.scale) place) ∧
      ∀ word word' : UInt64, word >>> 12 ≤ word' >>> 12 →
        lottery.winner word ≤ lottery.winner word' := by
  obtain ⟨lottery, h⟩ := exists_ok_iff.mpr ⟨hweights, hfinite, hpos⟩
  obtain ⟨hfinite', hpos'⟩ := total_pos_of_ok h
  exact ⟨lottery, h, getLast?_runningSums h, isScale_scale hfinite' hpos',
    Draw.pickIndex_of_ok h, winner_weight_pos h, fun word => (number_fraction52 word).2,
    winner_eq_iff h, fun _ _ => winner_mono h⟩

/-- Weights of which one is lost when it is added, between weights of 0. -/
def lossy : List Float :=
  [-0.0, 9007199254740992.0, 1.0, 0.0]

/-- The weight that is lost is never drawn. -/
theorem pickIndex_follows_sums_lossy :
    ∃ lottery, ofWeights lossy = .ok lottery ∧
      IsScale 9007199254740992.0 lottery.scale ∧ ∀ word, lottery.winner word = 1 := by
  have hweights : ∀ weight ∈ lossy, weight.isFinite = true ∧ 0.0 ≤ weight := by decide +kernel
  have hsums : runningSums lossy =
      [-0.0, 9007199254740992.0, 9007199254740992.0, 9007199254740992.0] := by
    decide +kernel
  obtain ⟨lottery, h, htotal, hscale, -, hpos, -, hencloses, -⟩ := pickIndex_follows_sums
    hweights ⟨1.0, by simp [lossy], by decide +kernel⟩ (by decide +kernel)
  rw [hsums] at htotal
  have htotal' : 9007199254740992.0 = lottery.total := Option.some.inj htotal
  refine ⟨lottery, h, htotal' ▸ hscale, fun word => ?_⟩
  have hplace := (hencloses word _).mp rfl
  obtain ⟨weight, hget, hweight⟩ := hpos word
  generalize lottery.winner word = place at hplace hget
  have hlt : place < 4 := (List.getElem?_eq_some_iff.mp hget).1
  obtain rfl | rfl | rfl | rfl : place = 0 ∨ place = 1 ∨ place = 2 ∨ place = 3 := by omega
  · obtain rfl : -0.0 = weight := Option.some.inj hget
    exact absurd hweight (by decide +kernel)
  · rfl
  · -- no number lies between the sums before and up to the weight that is lost
    obtain ⟨⟨before, hbefore, hle⟩, ⟨upTo, hupTo, hbeyond⟩⟩ := hplace
    rw [hsums] at hbefore hupTo
    obtain rfl : 9007199254740992.0 = before := Option.some.inj hbefore
    obtain rfl : 9007199254740992.0 = upTo := Option.some.inj hupTo
    exact absurd hbeyond (not_lt_of_le hle)
  · obtain rfl : 0.0 = weight := Option.some.inj hget
    exact absurd hweight (by decide +kernel)

end Lottery

end NewsFeed
