/-
Draws from a wheel.

A wheel has a sector for each weight.  It is made in two layers that check the weights in ways of
their own: before it is made, the weights are looked through for one that is negative or not finite
and then added up; while it is made, they are looked through and added up once more, with other
tests and starting from another number, and it is asserted that there is something to divide.  A
failed assertion is an outcome of its own here, `none`, and so is the removal of an item where there
is none.

* `ofWeights?_of_good` — behind the first layer the second one finds at most that all weights are
  zero, and no assertion fails;
* `pickIndex?_eq` — drawing from a wheel is drawing from a lottery;
* `pick_classified` — what becomes of a draw is the verdict on the weights, and only a draw that
  succeeds reads a word and takes out an item.

Design notes: the two sums differ at most in the sign of a zero, so both overflow or none does.
-/
import NewsFeed.Proofs.Points
import NewsFeed.Proofs.Verdicts

namespace NewsFeed

open Binary64

/-! ### Wheels -/

/-- Why no wheel can be made. -/
inductive WheelFault where
  | noItem
  | invalidWeight
  | allWeightsZero
  deriving DecidableEq, Repr

/-- The sectors of a list of weights. -/
structure Wheel where
  /-- The running sums of all weights but the last. -/
  bounds : List Float
  /-- The factor that takes fractions to points. -/
  scale : Float

namespace Wheel

/-- Checks the weights while they are added to a sum: the sums before each of them, and the sum of
all. -/
def addUp (sum : Float) : List Float → Except WheelFault (List Float × Float)
  | [] => .ok ([], sum)
  | weight :: rest =>
    if 0.0 ≤ weight then
      (addUp (sum + weight) rest).map fun result => (sum :: result.1, result.2)
    else .error .invalidWeight

/-- The first float, going down one by one from a pattern, whose largest fraction lies below the
total. -/
def lowered (total : Float) : ℕ → Float
  | 0 => .ofBits 0
  | pattern + 1 =>
    let scale := Float.ofBits (.ofNat (pattern + 1))
    if total ≤ scale * .ofBits 0x3feffffffffffffe then lowered total pattern else scale

/-- The factor for points below a total.  It is asserted that there are any, and that the total is
finite. -/
def scale? (total : Float) : Option Float :=
  if 0.0 < total ∧ total.isFinite = true then some (lowered total total.toBits.toNat) else none

/-- Makes a wheel, unless an assertion fails. -/
def ofWeights? : List Float → Option (Except WheelFault Wheel)
  | [] => some (.error .noItem)
  | first :: rest =>
    if 0.0 ≤ first then
      match addUp first rest with
      | .error fault => some (.error fault)
      | .ok (bounds, total) =>
        if total == 0.0 then some (.error .allWeightsZero)
        else (scale? total).map fun scale => .ok ⟨bounds, scale⟩
    else some (.error .invalidWeight)

/-- The sector for a word: how many of the sums lie at or below its point. -/
def sector (wheel : Wheel) (word : UInt64) : ℕ :=
  wheel.bounds.countP fun bound => decide (bound ≤ fraction52 word * wheel.scale)

/-- What is found to be wrong with weights before a wheel is made. -/
def check? (weights : List Float) : Option PickError :=
  if weights.isEmpty then some .noCandidates
  else match weights.find? fun weight => !weight.isFinite || decide (weight < 0.0) with
    | some weight => some (.badWeight weight)
    | none =>
      if !(Lottery.sum weights).isFinite then some (.badWeight (Lottery.sum weights)) else none

/-- What is reported if no wheel can be made. -/
def report (weights : List Float) : WheelFault → PickError
  | .noItem => .noCandidates
  | .invalidWeight => .badWeight (Lottery.sum weights)
  | .allWeightsZero => .zeroTotal

/-- Draws the place of one of the weights from a wheel. -/
def pickIndex? (weights : List Float) : Draw (Option (Except PickError ℕ)) :=
  match check? weights with
  | some cause => return some (.error cause)
  | none =>
    match ofWeights? weights with
    | none => return none
    | some (.error fault) => return some (.error (report weights fault))
    | some (.ok wheel) => return some (.ok (wheel.sector (← Draw.word)))

/-- Draws one of the items from a wheel and removes it: what was drawn, and the items that are
left. -/
def pick? {α : Type} (items : List α) (weight : α → Float) :
    Draw (Option (Except PickError α × List α)) := do
  match ← pickIndex? (items.map weight) with
  | none => return none
  | some (.error cause) => return some (.error cause, items)
  | some (.ok place) => return items[place]?.map fun item => (.ok item, items.eraseIdx place)

/-! ### A wheel is a lottery -/

section

variable {first total : Float} {rest weights : List Float}

/-- Weights that are not negative all take part. -/
theorem addUp_eq (sum : Float) (h : ∀ weight ∈ rest, 0.0 ≤ weight) :
    addUp sum rest = .ok ((runningSums.go sum rest).dropLast, rest.foldl (· + ·) sum) := by
  induction rest generalizing sum with
  | nil => rfl
  | cons weight rest ih =>
    obtain ⟨hweight, hrest⟩ := List.forall_mem_cons.mp h
    rw [addUp, if_pos hweight, ih (sum + weight) hrest, Lottery.dropLast_go, List.foldl_cons]
    rfl

theorem lowered_of_lt {pattern : ℕ}
    (h : ¬ total ≤ .ofBits (.ofNat pattern) * .ofBits 0x3feffffffffffffe) :
    lowered total pattern = .ofBits (.ofNat pattern) := by
  cases pattern with
  | zero => rfl
  | succ pattern => exact if_neg h

/-- The factor is lowered once at most. -/
theorem lowered_eq_scale (bounds : List Float) (hpos : 0.0 < total)
    (hfinite : total.isFinite = true) :
    lowered total total.toBits.toNat = Lottery.scale ⟨bounds, total⟩ := by
  obtain ⟨hpattern, -⟩ := toNat_toBits_of_pos hpos hfinite
  obtain ⟨last, hlast⟩ := Nat.exists_eq_succ_of_ne_zero hpattern.ne'
  have htotal : Float.ofBits (.ofNat (last + 1)) = total := by
    rw [← Nat.succ_eq_add_one, ← hlast, UInt64.ofNat_toNat, Float.ofBits_toBits]
  have hbelow : Float.ofBits (.ofNat last) = below total := by
    rw [below, ← UInt64.ofNat_toNat (x := total.toBits), hlast, Nat.succ_eq_add_one,
      UInt64.ofNat_add]
    exact congrArg Float.ofBits (UInt64.add_sub_cancel _ 1).symm
  rw [hlast, lowered, htotal, Lottery.scale]
  split_ifs
  · have hlt := Lottery.below_mul_lt hpos hfinite
    rw [← hbelow] at hlt ⊢
    exact lowered_of_lt fun hle => not_lt_of_le hle hlt
  · rfl

/-- The sums at or below a point stand before the others. -/
theorem countP_eq_length_takeWhile {bounds : List Float} (point : Float)
    (h : bounds.Pairwise (· ≤ ·)) :
    bounds.countP (fun bound => decide (bound ≤ point)) =
      (bounds.takeWhile fun bound => decide (bound ≤ point)).length := by
  induction bounds with
  | nil => rfl
  | cons bound bounds ih =>
    obtain ⟨hle, hbounds⟩ := List.pairwise_cons.mp h
    by_cases hpassed : bound ≤ point
    · rw [List.countP_cons_of_pos (by simpa using hpassed),
        List.takeWhile_cons_of_pos (by simpa using hpassed), List.length_cons, ih hbounds]
    · rw [List.takeWhile_cons_of_neg (by simpa using hpassed), List.length_nil,
        List.countP_eq_zero]
      intro later hmem
      rcases List.mem_cons.mp hmem with rfl | hmem
      · simpa using hpassed
      · simpa using fun hle' => hpassed (Binary64.le_trans (hle later hmem) hle')

/-! ### Both layers -/

/-- What the first layer finds to be wrong is the verdict, and if it finds nothing, all weights
but those that are all zero can be drawn from. -/
theorem check?_cases (weights : List Float) :
    (∃ cause, check? weights = some cause ∧ Lottery.Verdict weights (some cause)) ∨
    check? weights = none ∧ weights ≠ [] ∧ (∀ weight ∈ weights, ¬ Lottery.IsBad weight) ∧
      (Lottery.sum weights).isFinite = true := by
  -- refusing a weight and calling it bad are the same
  have hbad_iff (weight : Float) :
      (!weight.isFinite || decide (weight < 0.0)) = true ↔ Lottery.IsBad weight := by
    rw [Lottery.IsBad, Bool.or_eq_true, Bool.not_eq_true', decide_eq_true_eq]
  cases weights with
  | nil => exact .inl ⟨_, rfl, .empty⟩
  | cons first rest =>
    rw [check?, List.isEmpty_cons, if_neg Bool.false_ne_true]
    split
    · next weight hfind =>
      obtain ⟨hbad, before, after, happend, hbefore⟩ := List.find?_eq_some_iff_append.mp hfind
      refine .inl ⟨_, rfl, happend ▸ .bad (fun earlier hmem => ?_) ((hbad_iff weight).mp hbad)⟩
      rw [← hbad_iff, Bool.not_eq_true, ← Bool.not_eq_true']
      exact hbefore earlier hmem
    · next hfind =>
      have hgood : ∀ weight ∈ first :: rest, ¬ Lottery.IsBad weight := fun weight hmem hbad =>
        List.find?_eq_none.mp hfind weight hmem ((hbad_iff weight).mpr hbad)
      cases hfinite : (Lottery.sum (first :: rest)).isFinite with
      | true => exact .inr ⟨rfl, List.cons_ne_nil first rest, hgood, rfl⟩
      | false =>
        refine .inl ⟨_, rfl, ?_⟩
        have hnonneg := Lottery.nonneg_of_good hgood
        -- a sum of good weights that is not finite is infinity, and that is reported
        rw [Lottery.sum, Lottery.foldl_eq_infinity zero_nonneg hnonneg hfinite]
        exact .overflow hgood hfinite

/-- Behind the first layer the second one finds at most that all weights are zero, and no assertion
fails. -/
theorem ofWeights?_of_good (hne : weights ≠ [])
    (hgood : ∀ weight ∈ weights, ¬ Lottery.IsBad weight)
    (hfinite : (Lottery.sum weights).isFinite = true) :
    (∃ lottery : Lottery, Lottery.ofWeights weights = .ok lottery ∧
      ofWeights? weights = some (.ok ⟨lottery.bounds, lottery.scale⟩)) ∨
    Lottery.ofWeights weights = .error .zeroTotal ∧
      ofWeights? weights = some (.error .allWeightsZero) := by
  obtain ⟨first, rest, rfl⟩ := List.exists_cons_of_ne_nil hne
  have hnonneg := Lottery.nonneg_of_good hgood
  obtain ⟨hfirst, hrest⟩ := List.forall_mem_cons.mp hnonneg
  have hfinite' := (Lottery.foldl_isFinite_iff hnonneg).mpr hfinite
  have hok := Lottery.ofWeights_of_good hgood
  rw [hfinite', Bool.not_true, if_neg Bool.false_ne_true] at hok
  rw [ofWeights?, if_pos hfirst, addUp_eq first hrest]
  cases hzero : rest.foldl (· + ·) first == 0.0 with
  | true =>
    rw [hzero, if_pos rfl] at hok
    exact .inr ⟨hok, if_pos hzero⟩
  | false =>
    rw [hzero, if_neg Bool.false_ne_true] at hok
    obtain ⟨-, hpos⟩ := Lottery.total_pos_of_ok hok
    -- a positive finite total has a scale
    have hscale : scale? (rest.foldl (· + ·) first) =
        some (Lottery.scale ⟨(runningSums (first :: rest)).dropLast,
          rest.foldl (· + ·) first⟩) := by
      rw [scale?, if_pos ⟨hpos, hfinite'⟩, lowered_eq_scale _ hpos hfinite']
    refine .inl ⟨_, hok, ?_⟩
    simp only [hzero, Bool.false_eq_true, if_false, hscale, Option.map_some]
    rfl

/-- Drawing from a wheel is drawing from a lottery. -/
theorem pickIndex?_eq (weights : List Float) :
    pickIndex? weights = some <$> Draw.pickIndex weights := by
  rw [pickIndex?, Draw.pickIndex]
  rcases check?_cases weights with ⟨cause, hcheck, hverdict⟩ | ⟨hcheck, hne, hgood, hfinite⟩
  · simp only [hcheck, Lottery.ofWeights_of_verdict hverdict]
    rfl
  · rcases ofWeights?_of_good hne hgood hfinite with ⟨lottery, hok, hwheel⟩ | ⟨herror, hwheel⟩
    · have hsector (word : UInt64) :
          sector ⟨lottery.bounds, lottery.scale⟩ word = lottery.winner word := by
        refine countP_eq_length_takeWhile _ ?_
        rw [Lottery.bounds_eq hok]
        exact (pairwise_runningSums (Lottery.nonneg_of_ok hok)).1.sublist (List.dropLast_sublist _)
      simp only [hcheck, hok, hwheel, hsector]
      rfl
    · simp only [hcheck, herror, hwheel]
      rfl

end

end Wheel

/-! ### What becomes of a draw -/

/-- **What becomes of a draw.**  Weights have one verdict.  If it is an error, draws report it, read
no word and leave the items as they are.  If it is none, they read one word and take one item out of
the others.  Draws from a wheel do the same, so no assertion fails, and behind the first layer the
second one never finds that there is no item or that a weight is invalid. -/
theorem pick_classified {α : Type} (items : List α) (weight : α → Float) :
    (∃! verdict, Lottery.Verdict (items.map weight) verdict) ∧
    (∀ cause, Lottery.Verdict (items.map weight) (some cause) → ∀ tape,
      Draw.pickIndex (items.map weight) tape = some (.error cause, tape) ∧
      Draw.pick items weight tape = some (.error cause, tape) ∧
      Wheel.pickIndex? (items.map weight) tape = some (some (.error cause), tape) ∧
      Wheel.pick? items weight tape = some (some (.error cause, items), tape)) ∧
    (Lottery.Verdict (items.map weight) none → ∀ tape : Tape, ∃ place item,
      items[place]? = some item ∧
      Draw.pickIndex (items.map weight) tape =
        some (.ok place, { tape with used := tape.used + 1 }) ∧
      Draw.pick items weight tape =
        some (.ok (item, items.eraseIdx place), { tape with used := tape.used + 1 }) ∧
      Wheel.pickIndex? (items.map weight) tape =
        some (some (.ok place), { tape with used := tape.used + 1 }) ∧
      Wheel.pick? items weight tape =
        some (some (.ok item, items.eraseIdx place), { tape with used := tape.used + 1 })) ∧
    (Wheel.check? (items.map weight) = none → ∃ made,
      Wheel.ofWeights? (items.map weight) = some made ∧
      ∀ fault, made = .error fault → fault = .allWeightsZero) := by
  refine ⟨Lottery.existsUnique_verdict _, fun cause hverdict tape => ?_, fun hverdict tape => ?_,
    fun hcheck => ?_⟩
  · -- no word is read where the weights are refused
    have hindex := Draw.pickIndex_of_error (Lottery.ofWeights_of_verdict hverdict) tape
    have hindex? : Wheel.pickIndex? (items.map weight) tape = some (some (.error cause), tape) := by
      rw [Wheel.pickIndex?_eq, Draw.map_eq_some hindex]
    exact ⟨hindex, Draw.bind_eq_some.mpr ⟨_, _, hindex, rfl⟩, hindex?,
      Draw.bind_eq_some.mpr ⟨_, _, hindex?, rfl⟩⟩
  · -- good weights make a lottery, and one word picks its winner
    obtain ⟨lottery, hok⟩ := Lottery.exists_ok_iff_verdict.mpr hverdict
    obtain ⟨item, hitem, -, hpick⟩ := Draw.pick_of_ok hok tape
    have hindex := Draw.pickIndex_of_ok hok tape
    have hindex? : Wheel.pickIndex? (items.map weight) tape =
        some (some (.ok (lottery.winner (tape.word tape.used))),
          { tape with used := tape.used + 1 }) := by
      rw [Wheel.pickIndex?_eq, Draw.map_eq_some hindex]
    refine ⟨_, item, hitem, hindex, hpick, hindex?, Draw.bind_eq_some.mpr ⟨_, _, hindex?, ?_⟩⟩
    simp only [hitem]
    rfl
  · rcases Wheel.check?_cases (items.map weight) with ⟨cause, hcheck', -⟩ | ⟨-, hne, hgood, hfinite⟩
    · cases hcheck.symm.trans hcheck'
    · -- behind the checks only a total of 0 is left to be refused
      rcases Wheel.ofWeights?_of_good hne hgood hfinite with ⟨lottery, -, hmade⟩ | ⟨-, hmade⟩
      · exact ⟨_, hmade, fun fault h => nomatch h⟩
      · exact ⟨_, hmade, fun fault h => (Except.error.inj h).symm⟩

/-- Weights that are finite and overflow when they are added. -/
def huge : List Float :=
  [.ofBits 0x7fefffffffffffff, .ofBits 0x7fefffffffffffff]

/-- Two weights that overflow, two zeros, and a zero beside a weight that is drawn. -/
theorem pick_classified_huge :
    (∀ tape, Wheel.pick? huge id tape = some (some (.error (.badWeight infinity), huge), tape)) ∧
    (∃ made, Wheel.ofWeights? [-0.0, 0.0] = some made ∧
      ∀ fault, made = .error fault → fault = .allWeightsZero) ∧
    ∀ tape : Tape, ∃ place item, Wheel.pick? [-0.0, 1.0] id tape = some
      (some (.ok item, [-0.0, 1.0].eraseIdx place), { tape with used := tape.used + 1 }) := by
  have hhuge : Lottery.Verdict huge (some (.badWeight infinity)) :=
    .overflow (Lottery.forall_not_isBad_iff.mpr (by decide +kernel)) (by decide +kernel)
  have hdrawn : Lottery.Verdict [-0.0, 1.0] none :=
    .drawable (Lottery.forall_not_isBad_iff.mpr (by decide +kernel)) (by decide +kernel)
      ⟨1.0, by simp, by decide +kernel⟩
  refine ⟨fun tape => ?_, ?_, fun tape => ?_⟩
  · obtain ⟨-, herror, -⟩ := pick_classified huge id
    exact (herror _ (by rwa [List.map_id]) tape).2.2.2
  · obtain ⟨-, -, -, hmade⟩ := pick_classified [-0.0, 0.0] id
    exact hmade (by decide +kernel)
  · obtain ⟨-, -, hok, -⟩ := pick_classified [-0.0, 1.0] id
    obtain ⟨place, item, -, -, -, -, hpick⟩ := hok hdrawn tape
    exact ⟨place, item, hpick⟩

end NewsFeed
