/-
Computations that draw: what they return, and that they return.

A computation that returns is taken apart with `bind_eq_some` and put together with `bind_isSome`.
That it returns from every place of a tape is `Settles`, which is kept by sequencing; the only
computations that may not return are the rejection loops, and those leave the words and the patience
of a tape as they are (`Keeps`).

* `pick_cases` — a pick fails with the check of its weights and without reading a word, or takes out
  an item of positive weight;
* `settles_pick`, `settles_coin` — both always return;
* `SideBySide.bind` — two computations that stay alike part by part are alike;
* `keeps_normal` — a normal draw only moves along its tape.
-/
import NewsFeed.Draw.Tape
import NewsFeed.Draw.Normal
import NewsFeed.Proofs.Picks

namespace NewsFeed

/-- Whether two tapes differ at most in how much of them has been read. -/
def Tape.Along (tape tape' : Tape) : Prop :=
  tape'.word = tape.word ∧ tape'.patience = tape.patience

theorem Tape.Along.refl (tape : Tape) : tape.Along tape :=
  ⟨rfl, rfl⟩

theorem Tape.Along.trans {tape tape' tape'' : Tape} (h : tape.Along tape')
    (h' : tape'.Along tape'') : tape.Along tape'' :=
  ⟨h'.1.trans h.1, h'.2.trans h.2⟩

namespace Draw

variable {α β : Type}

theorem bind_eq_some {m : Draw α} {f : α → Draw β} {tape : Tape} {result : β × Tape} :
    (m >>= f) tape = some result ↔
      ∃ a tape', m tape = some (a, tape') ∧ f a tape' = some result := by
  show (m tape).bind (fun pair => f pair.1 pair.2) = some result ↔ _
  rw [Option.bind_eq_some_iff, Prod.exists]

theorem bind_of_eq_some {m : Draw α} {f : α → Draw β} {a : α} {tape mid : Tape}
    (h : m tape = some (a, mid)) : (m >>= f) tape = f a mid := by
  show (m tape).bind (fun pair => f pair.1 pair.2) = f a mid
  rw [h, Option.bind_some]

theorem bind_of_eq_none {m : Draw α} {f : α → Draw β} {tape : Tape} (h : m tape = none) :
    (m >>= f) tape = none := by
  show (m tape).bind (fun pair => f pair.1 pair.2) = none
  rw [h, Option.bind_none]

theorem map_eq_some {f : α → β} {m : Draw α} {a : α} {tape mid : Tape}
    (h : m tape = some (a, mid)) : (f <$> m) tape = some (f a, mid) := by
  rw [map_eq_pure_bind]
  exact bind_eq_some.mpr ⟨a, mid, h, rfl⟩

theorem pure_eq_some {a : α} {tape : Tape} {result : α × Tape} :
    (pure a : Draw α) tape = some result ↔ (a, tape) = result :=
  Option.some_inj

/-! ### Moving along a tape -/

/-- Whether a computation only reads from its tape. -/
def Keeps (m : Draw α) : Prop :=
  ∀ ⦃tape a tape'⦄, m tape = some (a, tape') → tape.Along tape'

theorem Keeps.pure (a : α) : Keeps (Pure.pure a : Draw α) := by
  intro tape a' tape' h
  obtain ⟨rfl, rfl⟩ := Prod.mk.inj (pure_eq_some.mp h)
  exact Tape.Along.refl tape

theorem Keeps.bind {m : Draw α} {f : α → Draw β} (hm : Keeps m) (hf : ∀ a, Keeps (f a)) :
    Keeps (m >>= f) := by
  intro tape b tape' h
  obtain ⟨a, mid, hma, hfa⟩ := bind_eq_some.mp h
  exact (hm hma).trans (hf a hfa)

theorem keeps_word : Keeps word := by
  intro tape a tape' h
  obtain ⟨rfl, rfl⟩ := Prod.mk.inj (Option.some_inj.mp h)
  exact ⟨rfl, rfl⟩

theorem keeps_settleWithin {attempt : Draw (Option α)} (h : Keeps attempt) (tries : ℕ) :
    Keeps (settleWithin attempt tries) := by
  induction tries with
  | zero =>
    intro tape a tape' hnone
    cases hnone
  | succ tries ih =>
    refine h.bind fun result => ?_
    cases result with
    | some value => exact Keeps.pure value
    | none => exact ih

theorem keeps_settle {attempt : Draw (Option α)} (h : Keeps attempt) : Keeps (settle attempt) := by
  intro tape a tape' hsettle
  exact keeps_settleWithin h tape.patience hsettle

theorem keeps_tailAttempt : Keeps tailAttempt :=
  keeps_word.bind fun _ => keeps_word.bind fun _ => Keeps.pure _

theorem keeps_normal : Keeps normal := by
  refine keeps_settle (keeps_word.bind fun bits => ?_)
  dsimp only
  split
  · exact Keeps.pure _
  split
  · exact (keeps_settle keeps_tailAttempt).bind fun _ => Keeps.pure _
  · exact keeps_word.bind fun _ => Keeps.pure _

/-! ### Returning -/

/-- Whether a computation returns from wherever it starts on a tape. -/
def Settles (tape : Tape) (m : Draw α) : Prop :=
  ∀ ⦃tape'⦄, tape.Along tape' → ∃ a tape'', m tape' = some (a, tape'') ∧ tape.Along tape''

theorem Settles.pure (tape : Tape) (a : α) : Settles tape (Pure.pure a : Draw α) := fun _ h =>
  ⟨a, _, rfl, h⟩

theorem Settles.bind {tape : Tape} {m : Draw α} {f : α → Draw β} (hm : Settles tape m)
    (hf : ∀ a, Settles tape (f a)) : Settles tape (m >>= f) := by
  intro tape' h
  obtain ⟨a, mid, hma, hmid⟩ := hm h
  obtain ⟨b, tape'', hfa, htape''⟩ := hf a hmid
  exact ⟨b, tape'', bind_eq_some.mpr ⟨a, mid, hma, hfa⟩, htape''⟩

theorem Settles.isSome {tape : Tape} {m : Draw α} (h : Settles tape m) :
    (m tape).isSome = true := by
  obtain ⟨a, tape', hm, -⟩ := h (Tape.Along.refl tape)
  exact Option.isSome_iff_exists.mpr ⟨_, hm⟩

/-- A sequence returns if its first part does, and its second part does from there. -/
theorem bind_isSome {m : Draw α} {f : α → Draw β} {tape : Tape} (hm : (m tape).isSome = true)
    (hf : ∀ a mid, m tape = some (a, mid) → (f a mid).isSome = true) :
    ((m >>= f) tape).isSome = true := by
  obtain ⟨⟨a, mid⟩, hma⟩ := Option.isSome_iff_exists.mp hm
  obtain ⟨result, hresult⟩ := Option.isSome_iff_exists.mp (hf a mid hma)
  exact Option.isSome_iff_exists.mpr ⟨result, bind_eq_some.mpr ⟨a, mid, hma, hresult⟩⟩

theorem settles_word (tape : Tape) : Settles tape word := fun _ h =>
  ⟨_, _, rfl, h.trans ⟨rfl, rfl⟩⟩

theorem settles_coin (tape : Tape) (p : Float) : Settles tape (coin p) := by
  unfold coin
  split_ifs
  · exact Settles.pure tape false
  · exact Settles.pure tape true
  · exact (settles_word tape).bind fun _ => Settles.pure tape _

/-! ### Two computations -/

/-- Whether two computations, wherever they start on a tape, both give no result, or read the same
words and give results in a relation. -/
def SideBySide (R : α → β → Prop) (m : Draw α) (m' : Draw β) : Prop :=
  ∀ tape, m tape = none ∧ m' tape = none ∨
    ∃ a b tape', m tape = some (a, tape') ∧ m' tape = some (b, tape') ∧ R a b

theorem SideBySide.pure {R : α → β → Prop} {a : α} {b : β} (h : R a b) :
    SideBySide R (Pure.pure a) (Pure.pure b) := fun tape =>
  .inr ⟨a, b, tape, rfl, rfl, h⟩

/-- A computation beside itself has one result, which is among those that it can have. -/
theorem SideBySide.refl (m : Draw α) :
    SideBySide (fun a a' => a = a' ∧ ∃ tape tape', m tape = some (a, tape')) m m := by
  intro tape
  cases h : m tape with
  | none => exact .inl ⟨rfl, rfl⟩
  | some made => exact .inr ⟨made.1, made.1, made.2, rfl, rfl, rfl, tape, made.2, h⟩

theorem SideBySide.bind {γ δ : Type} {R : α → β → Prop} {S : γ → δ → Prop} {m : Draw α}
    {m' : Draw β} {f : α → Draw γ} {f' : β → Draw δ} (hm : SideBySide R m m')
    (hf : ∀ a b, R a b → SideBySide S (f a) (f' b)) : SideBySide S (m >>= f) (m' >>= f') := by
  intro tape
  show (m tape).bind _ = none ∧ (m' tape).bind _ = none ∨
    ∃ c d tape', (m tape).bind _ = some (c, tape') ∧ (m' tape).bind _ = some (d, tape') ∧ S c d
  rcases hm tape with ⟨hnone, hnone'⟩ | ⟨a, b, mid, hsome, hsome', hresult⟩
  · rw [hnone, hnone']
    exact .inl ⟨rfl, rfl⟩
  · rw [hsome, hsome']
    exact hf a b hresult mid

/-- Computations with the same beginning only need to go on side by side from the results that it
can have. -/
theorem SideBySide.bind_same {γ : Type} {S : β → γ → Prop} {m : Draw α} {f : α → Draw β}
    {f' : α → Draw γ}
    (hf : ∀ a, (∃ tape tape', m tape = some (a, tape')) → SideBySide S (f a) (f' a)) :
    SideBySide S (m >>= f) (m >>= f') := by
  refine (SideBySide.refl m).bind ?_
  rintro a _ ⟨rfl, hreturned⟩
  exact hf a hreturned

/-- What follows a computation matters only for the results that it can have. -/
theorem bind_congr_of_returned {m : Draw α} {f f' : α → Draw β}
    (h : ∀ a, (∃ tape tape', m tape = some (a, tape')) → f a = f' a) : m >>= f = m >>= f' := by
  funext tape
  show (m tape).bind _ = (m tape).bind _
  cases hm : m tape with
  | none => rfl
  | some made => exact congrFun (h made.1 ⟨tape, made.2, hm⟩) made.2

/-! ### Picks -/

/-- A pick looks at the items only through their weights. -/
theorem pick_congr {items : List α} {weight weight' : α → Float}
    (h : ∀ item ∈ items, weight item = weight' item) : pick items weight = pick items weight' := by
  rw [pick, pick, List.map_congr_left h]

theorem pickIndex_of_error {weights : List Float} {cause : PickError}
    (h : Lottery.ofWeights weights = .error cause) (tape : Tape) :
    pickIndex weights tape = some (.error cause, tape) := by
  rw [pickIndex, h]
  rfl

theorem pickIndex_of_ok {weights : List Float} {lottery : Lottery}
    (h : Lottery.ofWeights weights = .ok lottery) (tape : Tape) :
    pickIndex weights tape = some (.ok (lottery.winner (tape.word tape.used)),
      { tape with used := tape.used + 1 }) := by
  rw [pickIndex, h]
  rfl

theorem pick_of_error {items : List α} {weight : α → Float} {cause : PickError}
    (h : Lottery.ofWeights (items.map weight) = .error cause) (tape : Tape) :
    pick items weight tape = some (.error cause, tape) :=
  bind_eq_some.mpr ⟨_, _, pickIndex_of_error h tape, rfl⟩

theorem pick_of_ok {items : List α} {weight : α → Float} {lottery : Lottery}
    (h : Lottery.ofWeights (items.map weight) = .ok lottery) (tape : Tape) :
    ∃ item, items[lottery.winner (tape.word tape.used)]? = some item ∧ 0.0 < weight item ∧
      pick items weight tape =
        some (.ok (item, items.eraseIdx (lottery.winner (tape.word tape.used))),
          { tape with used := tape.used + 1 }) := by
  obtain ⟨weight', hget, hpos⟩ := Lottery.winner_weight_pos h (tape.word tape.used)
  rw [List.getElem?_map, Option.map_eq_some_iff] at hget
  obtain ⟨item, hitem, rfl⟩ := hget
  refine ⟨item, hitem, hpos, bind_eq_some.mpr ⟨_, _, pickIndex_of_ok h tape, ?_⟩⟩
  simp only [hitem]
  rfl

/-- What a pick does. -/
theorem pick_cases (items : List α) (weight : α → Float) (tape : Tape) :
    (∃ cause, Lottery.ofWeights (items.map weight) = .error cause ∧
      pick items weight tape = some (.error cause, tape)) ∨
    ∃ lottery place item, Lottery.ofWeights (items.map weight) = .ok lottery ∧
      items[place]? = some item ∧ 0.0 < weight item ∧
      pick items weight tape =
        some (.ok (item, items.eraseIdx place), { tape with used := tape.used + 1 }) := by
  cases h : Lottery.ofWeights (items.map weight) with
  | error cause => exact .inl ⟨cause, rfl, pick_of_error h tape⟩
  | ok lottery =>
    obtain ⟨item, hitem, hpos, hpick⟩ := pick_of_ok h tape
    exact .inr ⟨lottery, _, item, rfl, hitem, hpos, hpick⟩

theorem settles_pick (tape : Tape) (items : List α) (weight : α → Float) :
    Settles tape (pick items weight) := by
  intro tape' h
  rcases pick_cases items weight tape' with ⟨_, -, hpick⟩ | ⟨_, _, _, -, -, -, hpick⟩
  · exact ⟨_, _, hpick, h⟩
  · exact ⟨_, _, hpick, h⟩

end Draw

end NewsFeed
