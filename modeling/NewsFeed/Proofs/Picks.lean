/-
Weighted picks: when they succeed and what they take.

A list of weights can be drawn from exactly if all are finite and none negative, their sum from the
left is finite, and one of them is positive.  For positive weights only the sum matters
(`ofWeights_ok_iff`), and a sum over fewer weights is no greater, so a list that can be drawn from
stays so when weights are left out (`sum_isFinite_of_sublist`).

* `exists_ok_iff` — which weights can be drawn from;
* `isScale_scale` — points are fractions of the greatest float for which they all lie below the
  total;
* `winner_weight_pos` — the winner is one of the candidates, and its weight is positive.

Design notes: the largest fraction of the total lies below the total, or else that of the float
below it does, so one step down is all that is ever needed.
-/
import NewsFeed.Draw.Lottery
import NewsFeed.Proofs.Bits

namespace NewsFeed

open Binary64

namespace Lottery

/-- The sum of weights, taken from the left. -/
def sum (weights : List Float) : Float :=
  weights.foldl (· + ·) 0.0

/-- A sum over fewer weights stays finite. -/
theorem sum_isFinite_of_sublist {weights weights' : List Float} (hsub : weights.Sublist weights')
    (h : ∀ weight ∈ weights', 0.0 ≤ weight) (hfinite : (sum weights').isFinite = true) :
    (sum weights).isFinite = true :=
  isFinite_of_le (foldl_add_nonneg zero_nonneg fun weight hmem => h weight (hsub.subset hmem))
    (foldl_add_le_of_sublist hsub h zero_nonneg zero_nonneg) hfinite

/-- Starting with the first weight gives the same sum as starting with 0. -/
theorem foldl_isFinite_iff {first : Float} {rest : List Float}
    (h : ∀ weight ∈ first :: rest, 0.0 ≤ weight) :
    (rest.foldl (· + ·) first).isFinite = true ↔ (sum (first :: rest)).isFinite = true := by
  have hfirst := h first List.mem_cons_self
  have hrest : ∀ weight ∈ rest, 0.0 ≤ weight := fun weight hmem =>
    h weight (List.mem_cons_of_mem _ hmem)
  obtain ⟨hle, hge⟩ := zero_add_le hfirst
  have hzero : 0.0 ≤ 0.0 + first := Binary64.add_nonneg zero_nonneg hfirst
  constructor
  · intro hfinite
    exact isFinite_of_le (foldl_add_nonneg zero_nonneg h)
      (foldl_add_le_of_sublist (List.Sublist.refl rest) hrest hzero hge) hfinite
  · intro hfinite
    exact isFinite_of_le (foldl_add_nonneg hfirst hrest)
      (foldl_add_le_of_sublist (List.Sublist.refl rest) hrest hfirst hle) hfinite

theorem admits_iff {weight : Float} :
    admits weight = true ↔ weight.isFinite = true ∧ 0.0 ≤ weight := by
  rw [admits, Bool.and_eq_true, decide_eq_true_eq]

/-- What the checks of a list of weights amount to. -/
theorem ofWeights_cons_eq_ok {first : Float} {rest : List Float} {lottery : Lottery} :
    ofWeights (first :: rest) = .ok lottery ↔
      (∀ weight ∈ first :: rest, weight.isFinite = true ∧ 0.0 ≤ weight) ∧
        (rest.foldl (· + ·) first).isFinite = true ∧ ¬ (rest.foldl (· + ·) first == 0.0) = true ∧
        lottery = ⟨(runningSums (first :: rest)).dropLast, rest.foldl (· + ·) first⟩ := by
  unfold ofWeights
  cases hfind : (first :: rest).find? (fun weight => !admits weight) with
  | some weight =>
    -- a weight is not admitted
    have hbad := List.find?_some hfind
    have hmem := List.mem_of_find?_eq_some hfind
    refine ⟨fun h => (nomatch h), fun ⟨hall, _⟩ => ?_⟩
    rw [admits_iff.mpr (hall weight hmem)] at hbad
    cases hbad
  | none =>
    -- all are, and the total decides
    have hall : ∀ weight ∈ first :: rest, weight.isFinite = true ∧ 0.0 ≤ weight := by
      intro weight hmem
      have hgood := List.find?_eq_none.mp hfind weight hmem
      rw [Bool.not_eq_true', Bool.not_eq_false] at hgood
      exact admits_iff.mp hgood
    simp only
    split_ifs with hfinite hzero
    · refine ⟨fun h => (nomatch h), fun ⟨_, hsum, _⟩ => ?_⟩
      rw [hsum] at hfinite
      cases hfinite
    · exact ⟨fun h => (nomatch h), fun ⟨_, _, hnonzero, _⟩ => absurd hzero hnonzero⟩
    · have hsum : (rest.foldl (· + ·) first).isFinite = true := by simpa using hfinite
      refine ⟨fun h => ⟨hall, hsum, hzero, (Except.ok.inj h).symm⟩, ?_⟩
      rintro ⟨-, -, -, rfl⟩
      rfl

/-! ### The factor -/

/-- Whether a factor is the greatest float, up to a total, whose largest fraction lies below the
total. -/
structure IsScale (total scale : Float) : Prop where
  le : scale ≤ total
  lt : scale * Float.ofBits 0x3feffffffffffffe < total
  greatest : ∀ factor ≤ total, factor * Float.ofBits 0x3feffffffffffffe < total → factor ≤ scale

/-- One step down from a total is enough. -/
theorem below_mul_lt {total : Float} (hpos : 0.0 < total) (hfinite : total.isFinite = true) :
    below total * Float.ofBits 0x3feffffffffffffe < total := by
  obtain ⟨hnonneg, hlt⟩ := below_lt hpos hfinite
  have hbelow := isFinite_of_le hnonneg (Binary64.le_of_lt hlt) hfinite
  have hone : (1.0 : Float).isFinite = true := by rfl
  have hlargest := number_largest.1
  have hle := mul_le_mul_of_nonneg hlargest hone hbelow largest_le_one hnonneg
  refine Binary64.lt_of_le_of_lt (Binary64.le_trans (mul_le_mul_swap hbelow hlargest) ?_) hlt
  exact Binary64.le_trans hle (mul_one_le hbelow)

section

variable {lottery : Lottery}

theorem scale_nonneg (hfinite : lottery.total.isFinite = true) (hpos : 0.0 < lottery.total) :
    0.0 ≤ lottery.scale := by
  unfold scale
  split_ifs
  · exact (below_lt hpos hfinite).1
  · exact Binary64.le_of_lt hpos

/-- The factor of a lottery leaves no point out that it could reach. -/
theorem isScale_scale (hfinite : lottery.total.isFinite = true) (hpos : 0.0 < lottery.total) :
    IsScale lottery.total lottery.scale := by
  have hnonneg := Binary64.le_of_lt hpos
  have htotal := isNaN_of_isFinite hfinite
  have hlargest := number_largest.1
  unfold scale
  split_ifs with hle
  · refine ⟨Binary64.le_of_lt (below_lt hpos hfinite).2, below_mul_lt hpos hfinite,
      fun factor hfactor hlt => le_below hpos hfinite ?_⟩
    -- a factor that is not below the total is as great, and so are the fractions of it
    refine lt_of_not_le htotal (le_iff.mp hfactor).1 fun hge => ?_
    have hfinite' := isFinite_of_le (Binary64.le_trans hnonneg hge) hfactor hfinite
    have hle' := mul_le_mul_of_nonneg hfinite hfinite' hlargest hge largest_nonneg
    refine not_lt_of_le (Binary64.le_trans hle ?_) hlt
    exact Binary64.le_trans hle' (mul_le_mul_swap hlargest hfinite')
  · refine ⟨le_refl_of_nonneg hnonneg, ?_, fun factor hfactor _ => hfactor⟩
    exact lt_of_not_le htotal (mul_spec hfinite hlargest).1 hle

/-! ### The winner -/

/-- A point lies between 0 and the total. -/
theorem point_lt_total (hfinite : lottery.total.isFinite = true) (hpos : 0.0 < lottery.total)
    (word : UInt64) : 0.0 ≤ lottery.point word ∧ lottery.point word < lottery.total := by
  have hnonneg := scale_nonneg hfinite hpos
  obtain ⟨hle, hlt, -⟩ := isScale_scale hfinite hpos
  have hscale := isFinite_of_le hnonneg hle hfinite
  have hfraction := (number_fraction52 word).1
  refine ⟨Binary64.mul_nonneg hfraction hscale (fraction52_nonneg word) hnonneg, ?_⟩
  refine Binary64.lt_of_le_of_lt ?_ hlt
  exact mul_le_mul_of_nonneg hfraction number_largest.1 hscale (fraction52_le_largest word) hnonneg

end

theorem length_go (start : Float) (rest : List Float) :
    (runningSums.go start rest).length = rest.length + 1 := by
  induction rest generalizing start with
  | nil => rfl
  | cons weight rest ih => rw [runningSums.go, List.length_cons, ih, List.length_cons]

theorem dropLast_go (start weight : Float) (rest : List Float) :
    (runningSums.go start (weight :: rest)).dropLast =
      start :: (runningSums.go (start + weight) rest).dropLast := by
  refine List.dropLast_cons_of_ne_nil fun hnil => ?_
  have hlength := length_go (start + weight) rest
  rw [hnil] at hlength
  cases hlength

/-- No running sum but the last is passed if the first is beyond the point. -/
theorem takeWhile_go_of_lt {start point : Float} (rest : List Float) (h : point < start) :
    (runningSums.go start rest).dropLast.takeWhile (fun bound => decide (bound ≤ point)) = [] := by
  cases rest with
  | nil => rfl
  | cons weight rest =>
    rw [dropLast_go, List.takeWhile_cons_of_neg]
    simpa using fun hle => not_lt_of_le hle h

/-- The sum that carries the running sums over a point is one that a positive weight was added to.
The induction is on the weights after the first, of which at least one is left when the sum so far
is still at or below the point. -/
theorem exists_pos_of_passed {start point : Float} {rest : List Float} (first : Float)
    (hstart : 0.0 ≤ start) (hrest : ∀ weight ∈ rest, 0.0 ≤ weight) (hle : start ≤ point)
    (hlt : point < rest.foldl (· + ·) start) :
    ∃ weight, (first :: rest)[((runningSums.go start rest).dropLast.takeWhile
      (fun bound => decide (bound ≤ point))).length]? = some weight ∧ 0.0 < weight := by
  induction rest generalizing start first with
  | nil => exact absurd hlt (not_lt_of_le hle)
  | cons weight rest ih =>
    have hweight := hrest weight List.mem_cons_self
    have hrest' : ∀ weight' ∈ rest, 0.0 ≤ weight' := fun weight' hmem =>
      hrest weight' (List.mem_cons_of_mem _ hmem)
    have hnext := Binary64.add_nonneg hstart hweight
    rw [dropLast_go, List.takeWhile_cons_of_pos (by simpa using hle), List.length_cons,
      List.getElem?_cons_succ]
    by_cases hpassed : start + weight ≤ point
    · exact ih weight hnext hrest' hpassed hlt
    · have hbeyond := lt_of_not_le (nonneg_iff.mp hnext).1 (le_iff.mp hle).2.1 hpassed
      rw [takeWhile_go_of_lt rest hbeyond]
      refine ⟨weight, rfl, ?_⟩
      -- adding a weight of 0 would have left the sum at or below the point
      by_contra hzero
      have hsame := add_le_self_of_not_pos hstart hweight hzero
      exact hpassed (Binary64.le_trans hsame hle)

/-- The total of weights that can be drawn from is positive. -/
theorem total_pos_of_ok {weights : List Float} {lottery : Lottery}
    (h : ofWeights weights = .ok lottery) :
    lottery.total.isFinite = true ∧ 0.0 < lottery.total := by
  cases weights with
  | nil => cases h
  | cons first rest =>
    obtain ⟨hall, hfinite, hnonzero, rfl⟩ := ofWeights_cons_eq_ok.mp h
    have hnonneg : 0.0 ≤ rest.foldl (· + ·) first :=
      foldl_add_nonneg (hall first List.mem_cons_self).2 fun weight hmem =>
        (hall weight (List.mem_cons_of_mem _ hmem)).2
    refine ⟨hfinite, lt_of_not_le (nonneg_iff.mp hnonneg).1 isNaN_zero fun hle => hnonzero ?_⟩
    refine beq_iff.mpr ⟨(nonneg_iff.mp hnonneg).1, isNaN_zero, ?_⟩
    exact le_antisymm (le_iff.mp hle).2.2 (le_iff.mp hnonneg).2.2

/-- The winner is one of the candidates, and its weight is positive. -/
theorem winner_weight_pos {weights : List Float} {lottery : Lottery}
    (h : ofWeights weights = .ok lottery) (word : UInt64) :
    ∃ weight, weights[lottery.winner word]? = some weight ∧ 0.0 < weight := by
  obtain ⟨hfinite, hpos⟩ := total_pos_of_ok h
  obtain ⟨hpoint, hlt⟩ := point_lt_total hfinite hpos word
  cases weights with
  | nil => cases h
  | cons first rest =>
    obtain ⟨hall, -, -, hlottery⟩ := ofWeights_cons_eq_ok.mp h
    have htotal : lottery.total = rest.foldl (· + ·) first := by rw [hlottery]
    have hbounds : lottery.bounds = (runningSums.go first rest).dropLast := by rw [hlottery]; rfl
    have hfirst := (hall first List.mem_cons_self).2
    have hrest : ∀ weight ∈ rest, 0.0 ≤ weight := fun weight hmem =>
      (hall weight (List.mem_cons_of_mem _ hmem)).2
    rw [winner, hbounds]
    by_cases hpassed : first ≤ lottery.point word
    · -- the first weight is passed, and the point lies below the total, so a later sum is the first
      -- above it
      rw [htotal] at hlt
      exact exists_pos_of_passed first hfirst hrest hpassed hlt
    · -- the point lies below the first weight, which is then positive
      have hbeyond := lt_of_not_le (nonneg_iff.mp hfirst).1 (nonneg_iff.mp hpoint).1 hpassed
      rw [takeWhile_go_of_lt rest hbeyond]
      exact ⟨first, rfl, Binary64.lt_of_le_of_lt hpoint hbeyond⟩

/-! ### Weights that can be drawn from -/

/-- A weight is no greater than the sum of all. -/
theorem le_foldl_of_mem {first : Float} {rest : List Float}
    (h : ∀ weight ∈ first :: rest, 0.0 ≤ weight) {weight : Float} (hmem : weight ∈ first :: rest) :
    weight ≤ rest.foldl (· + ·) first := by
  obtain ⟨hfirst, hrest⟩ := List.forall_mem_cons.mp h
  rcases List.mem_cons.mp hmem with rfl | hmem
  · exact foldl_add_le_of_sublist (List.nil_sublist rest) hrest hfirst (le_refl_of_nonneg hfirst)
  · exact le_foldl_add hrest hmem hfirst

/-- Weights can be drawn from exactly if all are finite and none negative, their sum does not
overflow, and one of them is positive. -/
theorem exists_ok_iff {weights : List Float} :
    (∃ lottery, ofWeights weights = .ok lottery) ↔
      (∀ weight ∈ weights, weight.isFinite = true ∧ 0.0 ≤ weight) ∧
        (sum weights).isFinite = true ∧ ∃ weight ∈ weights, 0.0 < weight := by
  cases weights with
  | nil => exact ⟨fun ⟨_, h⟩ => (nomatch h), fun ⟨_, _, _, hmem, _⟩ => (nomatch hmem)⟩
  | cons first rest =>
    constructor
    · rintro ⟨lottery, h⟩
      obtain ⟨hall, hfinite, -, -⟩ := ofWeights_cons_eq_ok.mp h
      -- any word draws a positive weight
      obtain ⟨weight, hget, hpos⟩ := winner_weight_pos h 0
      refine ⟨hall, ?_, weight, List.mem_of_getElem? hget, hpos⟩
      exact (foldl_isFinite_iff fun weight hmem => (hall weight hmem).2).mp hfinite
    · rintro ⟨hall, hfinite, weight, hmem, hpos⟩
      have hnonneg : ∀ weight ∈ first :: rest, 0.0 ≤ weight := fun weight hmem =>
        (hall weight hmem).2
      refine ⟨_, ofWeights_cons_eq_ok.mpr ⟨hall, (foldl_isFinite_iff hnonneg).mpr hfinite,
        fun hzero => ?_, rfl⟩⟩
      -- the total is at least the positive weight, so it is not 0
      have hlt := lt_of_lt_of_le (lt_iff.mp hpos).2.2
        (le_iff.mp (le_foldl_of_mem hnonneg hmem)).2.2
      rw [← (beq_iff.mp hzero).2.2] at hlt
      exact lt_irrefl _ hlt

/-- Positive weights can be drawn from exactly if their sum does not overflow. -/
theorem ofWeights_ok_iff {weights : List Float} (hne : weights ≠ [])
    (hpos : ∀ weight ∈ weights, 0.0 < weight) :
    (∃ lottery, ofWeights weights = .ok lottery) ↔ (sum weights).isFinite = true := by
  obtain ⟨first, rest, rfl⟩ := List.exists_cons_of_ne_nil hne
  have hnonneg : ∀ weight ∈ first :: rest, 0.0 ≤ weight := fun weight hmem =>
    Binary64.le_of_lt (hpos weight hmem)
  rw [exists_ok_iff]
  refine ⟨fun h => h.2.1, fun hfinite => ⟨fun weight hmem => ⟨?_, hnonneg weight hmem⟩, hfinite,
    first, List.mem_cons_self, hpos first List.mem_cons_self⟩⟩
  exact isFinite_of_le (hnonneg weight hmem) (le_foldl_of_mem hnonneg hmem)
    ((foldl_isFinite_iff hnonneg).mpr hfinite)

end Lottery

end NewsFeed
