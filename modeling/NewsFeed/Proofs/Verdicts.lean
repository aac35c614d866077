/-
What becomes of a list of weights.

The rules for weights apply one after the other, and the first one that is broken gives the error:
there has to be a weight, none may be negative or not finite, the sum may not overflow, and not all
weights may be zero.  A list that keeps all rules can be drawn from.  `Verdict` says so rule by
rule, without computing anything.

* `ofWeights_of_verdict`, `exists_ok_iff_verdict` — the check of a list of weights finds its
  verdict;
* `existsUnique_verdict` — every list has one verdict.
-/
import NewsFeed.Proofs.Picks

namespace NewsFeed

namespace Binary64

/-- The infinity that sums overflow to. -/
def infinity : Float :=
  .ofBits 0x7ff0000000000000

end Binary64

open Binary64

namespace Lottery

/-- Whether a weight is negative or not finite. -/
def IsBad (weight : Float) : Prop :=
  weight.isFinite = false ∨ weight < 0.0

/-- What becomes of a list of weights: the error that the first broken rule gives, or none. -/
inductive Verdict : List Float → Option PickError → Prop where
  | empty : Verdict [] (some .noCandidates)
  | bad {before after : List Float} {weight : Float}
      (good_before : ∀ earlier ∈ before, ¬ IsBad earlier) (bad : IsBad weight) :
      Verdict (before ++ weight :: after) (some (.badWeight weight))
  | overflow {weights : List Float} (good : ∀ weight ∈ weights, ¬ IsBad weight)
      (infinite : (sum weights).isFinite = false) :
      Verdict weights (some (.badWeight infinity))
  | zero {weights : List Float} (nonempty : weights ≠ [])
      (zero : ∀ weight ∈ weights, (weight == 0.0) = true) : Verdict weights (some .zeroTotal)
  | drawable {weights : List Float} (good : ∀ weight ∈ weights, ¬ IsBad weight)
      (finite : (sum weights).isFinite = true)
      (nonzero : ∃ weight ∈ weights, (weight == 0.0) = false) : Verdict weights none

variable {weights : List Float} {weight : Float}

theorem not_isBad_iff : ¬ IsBad weight ↔ weight.isFinite = true ∧ 0.0 ≤ weight := by
  rw [IsBad, not_or, Bool.not_eq_false]
  refine and_congr_right fun hfinite => ?_
  have hnan := isNaN_of_isFinite hfinite
  refine ⟨fun h => ?_, not_lt_of_le⟩
  by_contra hle
  exact h (lt_of_not_le isNaN_zero hnan hle)

theorem forall_not_isBad_iff : (∀ weight ∈ weights, ¬ IsBad weight) ↔
    ∀ weight ∈ weights, weight.isFinite = true ∧ 0.0 ≤ weight :=
  forall₂_congr fun _ _ => not_isBad_iff

theorem nonneg_of_good (h : ∀ weight ∈ weights, ¬ IsBad weight) :
    ∀ weight ∈ weights, 0.0 ≤ weight :=
  fun weight hmem => (not_isBad_iff.mp (h weight hmem)).2

theorem not_admits_iff : (!admits weight) = true ↔ IsBad weight := by
  rw [Bool.not_eq_true', ← Bool.not_eq_true, admits_iff, ← not_isBad_iff, not_not]

/-- A weight that is not bad is zero, of either sign, or positive. -/
theorem beq_zero_eq_false_iff (h : ¬ IsBad weight) : (weight == 0.0) = false ↔ 0.0 < weight := by
  obtain ⟨hfinite, hnonneg⟩ := not_isBad_iff.mp h
  obtain ⟨hnan, hnumber⟩ := nonneg_iff.mp hnonneg
  rw [← Bool.not_eq_true, beq_iff, lt_iff, number_zero]
  simp only [hnan, isNaN_zero, true_and]
  exact ⟨fun hne => lt_of_le_of_ne hnumber (Ne.symm hne), fun hlt => hlt.ne'⟩

/-- Sums overflow to infinity, whatever they start with. -/
theorem foldl_eq_infinity {start : Float} (hstart : 0.0 ≤ start)
    (h : ∀ weight ∈ weights, 0.0 ≤ weight)
    (hinfinite : (weights.foldl (· + ·) start).isFinite = false) :
    weights.foldl (· + ·) start = infinity :=
  eq_ofBits_of_not_isFinite (foldl_add_nonneg hstart h) (by simp [hinfinite])

/-- Every list of weights has a verdict. -/
theorem exists_verdict (weights : List Float) : ∃ verdict, Verdict weights verdict := by
  cases hfind : weights.find? fun weight => !admits weight with
  | some weight =>
    obtain ⟨hbad, before, after, rfl, hbefore⟩ := List.find?_eq_some_iff_append.mp hfind
    refine ⟨_, .bad (fun earlier hmem => ?_) (not_admits_iff.mp hbad)⟩
    rw [← not_admits_iff]
    simpa using hbefore earlier hmem
  | none =>
    have hgood : ∀ weight ∈ weights, ¬ IsBad weight := fun weight hmem hbad =>
      List.find?_eq_none.mp hfind weight hmem (not_admits_iff.mpr hbad)
    by_cases hfinite : (sum weights).isFinite = true
    · by_cases hzero : ∃ weight ∈ weights, (weight == 0.0) = false
      · exact ⟨_, .drawable hgood hfinite hzero⟩
      · have hzero' : ∀ weight ∈ weights, (weight == 0.0) = true := by simpa using hzero
        cases weights with
        | nil => exact ⟨_, .empty⟩
        | cons first rest => exact ⟨_, .zero (List.cons_ne_nil first rest) hzero'⟩
    · exact ⟨_, .overflow hgood (by simpa using hfinite)⟩

/-! ### The check of the weights -/

section

variable {first : Float} {rest : List Float}

/-- Weights of 0, of either sign, add up to 0. -/
theorem foldl_beq_zero (h : ∀ weight ∈ first :: rest, (weight == 0.0) = true) :
    (rest.foldl (· + ·) first == 0.0) = true := by
  induction rest generalizing first with
  | nil => exact h first List.mem_cons_self
  | cons weight rest ih =>
    obtain ⟨hfirst, hweight, hrest⟩ := by simpa only [List.forall_mem_cons] using h
    refine ih (List.forall_mem_cons.mpr ⟨?_, hrest⟩)
    obtain ⟨hnan, -, hzero⟩ := beq_iff.mp hfirst
    obtain ⟨hnan', -, hzero'⟩ := beq_iff.mp hweight
    obtain ⟨hnan'', hnumber⟩ := add_spec_of_nonneg
      (nonneg_iff.mpr ⟨hnan, (hzero.trans number_zero).ge⟩)
      (nonneg_iff.mpr ⟨hnan', (hzero'.trans number_zero).ge⟩)
    refine beq_iff.mpr ⟨hnan'', isNaN_zero, ?_⟩
    rw [hnumber, hzero, hzero', number_zero, add_zero, rounded_zero]

/-- Weights of which none is bad are added up. -/
theorem ofWeights_of_good (h : ∀ weight ∈ first :: rest, ¬ IsBad weight) :
    ofWeights (first :: rest) =
      if !(rest.foldl (· + ·) first).isFinite then .error (.badWeight (rest.foldl (· + ·) first))
      else if rest.foldl (· + ·) first == 0.0 then .error .zeroTotal
      else .ok ⟨(runningSums (first :: rest)).dropLast, rest.foldl (· + ·) first⟩ := by
  have hfind : (first :: rest).find? (fun weight => !admits weight) = none :=
    List.find?_eq_none.mpr fun weight hmem hbad => h weight hmem (not_admits_iff.mp hbad)
  simp only [ofWeights, hfind]

end

/-- The check of a list of weights gives the error of the first rule that is broken. -/
theorem ofWeights_of_verdict {cause : PickError} (h : Verdict weights (some cause)) :
    ofWeights weights = .error cause := by
  cases h with
  | empty => rfl
  -- the first bad weight is the one that is found
  | @bad before after weight hbefore hbad =>
    have hfind : (before ++ weight :: after).find? (fun weight => !admits weight) = some weight :=
      List.find?_eq_some_iff_append.mpr ⟨not_admits_iff.mpr hbad, before, after, rfl,
        fun earlier hmem => by simpa using mt not_admits_iff.mp (hbefore earlier hmem)⟩
    obtain ⟨first, rest, hweights⟩ := List.exists_cons_of_ne_nil
      (List.append_ne_nil_of_right_ne_nil before (List.cons_ne_nil weight after))
    rw [hweights] at hfind ⊢
    simp only [ofWeights, hfind]
  | overflow hgood hinfinite =>
    obtain ⟨first, rest, rfl⟩ := List.exists_cons_of_ne_nil fun hempty : weights = [] =>
      absurd hinfinite (by rw [hempty]; decide)
    have hnonneg := nonneg_of_good hgood
    obtain ⟨hfirst, hrest⟩ := List.forall_mem_cons.mp hnonneg
    -- summing from 0 and from the first weight overflow together
    have hinfinite' : (rest.foldl (· + ·) first).isFinite = false := by
      rw [← Bool.not_eq_true, foldl_isFinite_iff hnonneg, hinfinite]
      exact Bool.false_ne_true
    rw [ofWeights_of_good hgood, foldl_eq_infinity hfirst hrest hinfinite']
    rfl
  | zero hnonempty hzero =>
    obtain ⟨first, rest, rfl⟩ := List.exists_cons_of_ne_nil hnonempty
    -- zeros are good weights, so only their total is wrong
    have hgood : ∀ weight ∈ first :: rest, ¬ IsBad weight := fun weight hmem => by
      obtain ⟨hnan, -, hnumber⟩ := beq_iff.mp (hzero weight hmem)
      rw [number_zero] at hnumber
      exact not_isBad_iff.mpr ⟨isFinite_of_number_eq hnan hnumber,
        nonneg_iff.mpr ⟨hnan, hnumber.ge⟩⟩
    have htotal := foldl_beq_zero hzero
    have hfinite : (rest.foldl (· + ·) first).isFinite = true := by
      obtain ⟨hnan, -, hnumber⟩ := beq_iff.mp htotal
      rw [number_zero] at hnumber
      exact isFinite_of_number_eq hnan hnumber
    rw [ofWeights_of_good hgood, hfinite, htotal]
    rfl

/-- A list of weights of which no rule is broken can be drawn from. -/
theorem exists_ok_iff_verdict : (∃ lottery, ofWeights weights = .ok lottery) ↔
    Verdict weights none := by
  rw [exists_ok_iff]
  constructor
  · rintro ⟨hgood, hfinite, weight, hmem, hpos⟩
    have hgood' := forall_not_isBad_iff.mpr hgood
    exact .drawable hgood' hfinite
      ⟨weight, hmem, (beq_zero_eq_false_iff (hgood' weight hmem)).mpr hpos⟩
  · rintro (_ | _ | _ | _ | ⟨hgood, hfinite, weight, hmem, hnonzero⟩)
    exact ⟨forall_not_isBad_iff.mp hgood, hfinite, weight, hmem,
      (beq_zero_eq_false_iff (hgood weight hmem)).mp hnonzero⟩

/-- Every list of weights has one verdict. -/
theorem existsUnique_verdict (weights : List Float) : ∃! verdict, Verdict weights verdict := by
  obtain ⟨verdict, h⟩ := exists_verdict weights
  refine ⟨verdict, h, fun verdict' h' => ?_⟩
  cases verdict with
  | none =>
    obtain ⟨lottery, hok⟩ := exists_ok_iff_verdict.mpr h
    cases verdict' with
    | none => rfl
    | some cause => cases hok.symm.trans (ofWeights_of_verdict h')
  | some cause =>
    have herror := ofWeights_of_verdict h
    cases verdict' with
    | none =>
      obtain ⟨lottery, hok⟩ := exists_ok_iff_verdict.mpr h'
      cases hok.symm.trans herror
    | some cause' =>
      rw [Except.error.inj ((ofWeights_of_verdict h').symm.trans herror)]

end Lottery

end NewsFeed
