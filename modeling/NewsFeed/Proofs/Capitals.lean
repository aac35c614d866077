/-
No capital letters come out of mapping and composing.

What becomes of the characters of a domain, and what these are joined to, stands in tables.  So
whether a capital letter can come out is a question about the rows of the tables, and is answered
line by line.  A text without capital letters that is all ASCII is its own result.

* `isUpper_of_mem_composed` — composing makes no capital letters;
* `isUpper_of_mem_mapped?` — mapping leaves none;
* `mapped?_of_isAscii`, `composed_of_isAscii` — what stays as it is;
* `of_isAscii` — what holds of all ASCII characters.
-/
import Mathlib.Data.List.Basic
import NewsFeed.Host.Mapping
import NewsFeed.Text.Composition

namespace NewsFeed

/-! ### Capital letters -/

theorem isUpper_eq_false_iff {c : Char} :
    c.isUpper = false ↔ c.toNat < 'A'.toNat ∨ 'Z'.toNat < c.toNat := by
  have hval : c.isUpper = decide (65 ≤ c.toNat ∧ c.toNat ≤ 90) := rfl
  rw [hval, decide_eq_false_iff_not]
  show _ ↔ c.toNat < 65 ∨ 90 < c.toNat
  omega

/-- The code points around those of the capital letters. -/
theorem isUpper_ofNat {n : ℕ} (h : n < 'A'.toNat ∨ 'Z'.toNat < n) :
    (Char.ofNat n).isUpper = false := by
  rw [isUpper_eq_false_iff, Char.ofNat]
  by_cases hvalid : n.isValidChar
  · rwa [dif_pos hvalid]
  · rw [dif_neg hvalid]
    exact .inl (by decide)

theorem isUpper_toLower (c : Char) : c.toLower.isUpper = false := by
  unfold Char.toLower
  split
  · next h =>
    have hleast : 65 ≤ c.val.toNat := UInt32.le_iff_toNat_le.mp h.1
    have hgreatest : c.val.toNat ≤ 90 := UInt32.le_iff_toNat_le.mp h.2
    have hval : (c.val + ('a'.val - 'A'.val)).toNat = c.val.toNat + 32 := by
      rw [UInt32.toNat_add]
      show (c.val.toNat + 32) % 2 ^ 32 = c.val.toNat + 32
      omega
    rw [isUpper_eq_false_iff, ← Char.toNat_val, hval]
    show _ ∨ 90 < c.val.toNat + 32
    omega
  · next h => exact decide_eq_false h

theorem toLower_of_isUpper_eq_false {c : Char} (h : c.isUpper = false) : c.toLower = c :=
  dif_neg (of_decide_eq_false h)

/-! ### Tables -/

namespace Text

variable {check : Row → Bool}

/-- Whether all rows of a line pass a check. -/
def RowsPass (check : Row → Bool) (line : String) : Prop :=
  (rows line.toList).all check = true

/-- A line is checked as a list of characters, as its text would have to be decoded for each of
them. -/
theorem rowsPass_ofList {line : List Char} (h : (rows line).all check = true) :
    RowsPass check (String.ofList line) := by
  rw [RowsPass, String.toList_ofList]
  exact h

theorem check_of_mem_readTable {lines : List String} (h : ∀ line ∈ lines, RowsPass check line)
    {row : Row} (hmem : row ∈ readTable lines) : check row = true := by
  obtain ⟨line, hline, hrow⟩ := List.mem_flatMap.mp hmem
  exact List.all_eq_true.mp (h line hline) row hrow

/-! ### Composing -/

/-- Whether the numbers of a row are no capital letters. -/
def hasNoCapital (row : Row) : Bool :=
  (row.first :: row.numbers).all fun n => !(Char.ofNat n).isUpper

theorem compositionTable_passes : ∀ line ∈ compositionTable, RowsPass hasNoCapital line := by
  unfold compositionTable
  repeat refine List.forall_mem_cons.mpr ⟨rowsPass_ofList (by decide +kernel), ?_⟩
  exact List.forall_mem_nil _

theorem isUpper_of_mem_composites {composite : Composite} (h : composite ∈ composites) :
    composite.whole.isUpper = false ∧ composite.first.isUpper = false ∧
      composite.second.isUpper = false := by
  obtain ⟨row, hrow, hread⟩ := List.mem_filterMap.mp h
  have hcheck := List.all_eq_true.mp (check_of_mem_readTable compositionTable_passes hrow)
  split at hread
  · next first second hnumbers =>
    obtain rfl := Option.some.inj hread
    simpa [hnumbers] using hcheck
  · cases hread

namespace Hangul

theorem isUpper_of_split? {c first second : Char} (h : split? c = some (first, second)) :
    first.isUpper = false ∧ second.isUpper = false := by
  have hbeyond : ∀ m n, 'Z'.toNat < m → (Char.ofNat (m + n)).isUpper = false := fun m n hm =>
    isUpper_ofNat (.inr (Nat.lt_add_right n hm))
  unfold split? at h
  dsimp only at h
  split at h
  · cases h
  · split at h <;>
    · obtain ⟨rfl, rfl⟩ := Prod.mk.inj (Option.some.inj h)
      exact ⟨hbeyond _ _ (by decide), hbeyond _ _ (by decide)⟩

theorem isUpper_of_join? {first second whole : Char} (h : join? first second = some whole) :
    whole.isUpper = false := by
  unfold join? at h
  dsimp only at h
  split at h
  · obtain rfl := Option.some.inj h
    exact isUpper_ofNat (.inr (Nat.lt_add_right _ (by decide)))
  · split at h
    · next hsyllable =>
      obtain rfl := Option.some.inj h
      have hbeyond : 'Z'.toNat < first.toNat := Nat.lt_of_lt_of_le (by decide) hsyllable.1
      exact isUpper_ofNat (.inr (Nat.lt_add_right _ hbeyond))
    · cases h

end Hangul

theorem isUpper_of_split? {c first second : Char} (h : split? c = some (first, second)) :
    first.isUpper = false ∧ second.isUpper = false := by
  rcases Option.or_eq_some_iff.mp h with h | ⟨-, h⟩
  · exact Hangul.isUpper_of_split? h
  · obtain ⟨composite, hfind, hparts⟩ := Option.map_eq_some_iff.mp h
    obtain ⟨rfl, rfl⟩ := Prod.mk.inj hparts
    exact (isUpper_of_mem_composites (List.mem_of_find?_eq_some hfind)).2

theorem isUpper_of_join? {first second whole : Char} (h : join? first second = some whole) :
    whole.isUpper = false := by
  rcases Option.or_eq_some_iff.mp h with h | ⟨-, h⟩
  · exact Hangul.isUpper_of_join? h
  · obtain ⟨composite, hfind, rfl⟩ := Option.map_eq_some_iff.mp h
    exact (isUpper_of_mem_composites (List.mem_of_find?_eq_some hfind)).1

theorem isUpper_of_mem_takenApart {depth : ℕ} {c d : Char} (h : c.isUpper = false)
    (hmem : d ∈ takenApart depth c) : d.isUpper = false := by
  induction depth generalizing c with
  | zero => rwa [List.mem_singleton.mp hmem]
  | succ depth ih =>
    rw [takenApart] at hmem
    split at hmem
    · next first second hsplit =>
      obtain ⟨hfirst, hsecond⟩ := isUpper_of_split? hsplit
      rcases List.mem_append.mp hmem with hmem | hmem
      · exact ih hfirst hmem
      · rwa [List.mem_singleton.mp hmem]
    · rwa [List.mem_singleton.mp hmem]

theorem placeMark_perm (c : Char) (text : List Char) : (placeMark c text).Perm (c :: text) := by
  induction text with
  | nil => exact .refl _
  | cons d rest ih =>
    rw [placeMark]
    split
    · exact (ih.cons d).trans (.swap c d rest)
    · exact .refl _

theorem foldr_placeMark_perm (text : List Char) : (text.foldr placeMark []).Perm text := by
  induction text with
  | nil => exact .refl _
  | cons c rest ih => exact (placeMark_perm c _).trans (ih.cons c)

variable {text : List Char}

theorem isUpper_of_mem_decomposed (h : ∀ c ∈ text, c.isUpper = false) {d : Char}
    (hmem : d ∈ decomposed text) : d.isUpper = false := by
  obtain ⟨c, hc, hd⟩ := List.mem_flatMap.mp ((foldr_placeMark_perm _).mem_iff.mp hmem)
  exact isUpper_of_mem_takenApart (h c hc) hd

theorem isUpper_of_mem_joinFrom {letter : Char} {passed : List Char}
    (hletter : letter.isUpper = false) (hpassed : ∀ c ∈ passed, c.isUpper = false)
    (h : ∀ c ∈ text, c.isUpper = false) {d : Char} (hmem : d ∈ joinFrom letter passed text) :
    d.isUpper = false := by
  induction text generalizing letter passed with
  | nil =>
    rcases List.mem_cons.mp hmem with rfl | hmem
    · exact hletter
    · exact hpassed d (List.mem_reverse.mp hmem)
  | cons c rest ih =>
    obtain ⟨hc, hrest⟩ := List.forall_mem_cons.mp h
    unfold joinFrom at hmem
    dsimp only at hmem
    split at hmem
    · next whole hjoin =>
      -- the letter and the mark join, and no join is a capital
      exact ih (isUpper_of_join? (Option.ite_none_right_eq_some.mp hjoin).2) hpassed hrest hmem
    · split at hmem
      · -- the next character is a letter, so the old one and what it passed are put out
        rcases List.mem_cons.mp hmem with rfl | hmem
        · exact hletter
        · rcases List.mem_append.mp hmem with hmem | hmem
          · exact hpassed d (List.mem_reverse.mp hmem)
          · exact ih hc (List.forall_mem_nil _) hrest hmem
      · -- the mark does not join and is passed over
        exact ih hletter (List.forall_mem_cons.mpr ⟨hc, hpassed⟩) hrest hmem

/-- Composing makes no capital letters. -/
theorem isUpper_of_mem_composed (h : ∀ c ∈ text, c.isUpper = false) {d : Char}
    (hmem : d ∈ composed text) : d.isUpper = false := by
  rw [composed] at hmem
  split at hmem
  · exact h d hmem
  · have hdecomposed := fun c => @isUpper_of_mem_decomposed text h c
    cases hparts : decomposed text with
    | nil =>
      rw [hparts] at hmem
      cases hmem
    | cons c rest =>
      rw [hparts] at hmem hdecomposed
      obtain ⟨hc, hrest⟩ := List.forall_mem_cons.mp hdecomposed
      exact isUpper_of_mem_joinFrom hc (List.forall_mem_nil _) hrest hmem

end Text

/-! ### Mapping -/

namespace Host

open Text (Row RowsPass rowsPass_ofList)

/-- Whether a row puts no capital letter in the place of a character. -/
def replacesByNoCapital (row : Row) : Bool :=
  match row.numbers.map Char.ofNat with
  | [single] =>
    single.toNat + (row.last - row.first) < 'A'.toNat || 'Z'.toNat < single.toNat
  | target => target.all fun c => !c.isUpper

-- The table is checked in two halves, since all of it is too much for one proof.
theorem replacedTable_passes_start :
    ∀ line ∈ replacedLetters ++ replacedSymbols ++ replacedSquares ++ replacedIdeographs,
      RowsPass replacesByNoCapital line := by
  unfold replacedLetters replacedSymbols replacedSquares replacedIdeographs
  repeat rw [List.forall_mem_append]
  refine ⟨⟨⟨?_, ?_⟩, ?_⟩, ?_⟩
  all_goals
    repeat refine List.forall_mem_cons.mpr ⟨rowsPass_ofList (by decide +kernel), ?_⟩
    exact List.forall_mem_nil _

theorem replacedTable_passes_rest :
    ∀ line ∈ replacedForms ++ replacedBeyond, RowsPass replacesByNoCapital line := by
  unfold replacedForms replacedBeyond
  rw [List.forall_mem_append]
  constructor
  all_goals
    repeat refine List.forall_mem_cons.mpr ⟨rowsPass_ofList (by decide +kernel), ?_⟩
    exact List.forall_mem_nil _

theorem replacedTable_passes : ∀ line ∈ replacedTable, RowsPass replacesByNoCapital line := by
  rw [replacedTable, List.append_assoc]
  exact List.forall_mem_append.mpr ⟨replacedTable_passes_start, replacedTable_passes_rest⟩

theorem isUpper_of_mem_replacement {row : Row} {c d : Char}
    (hcheck : replacesByNoCapital row = true) (habout : isAbout row c = true)
    (hmem : d ∈ replacement row (row.numbers.map Char.ofNat) c) : d.isUpper = false := by
  have hcovers : c.toNat ≤ row.last :=
    of_decide_eq_true (Bool.and_eq_true_iff.mp (Bool.and_eq_true_iff.mp habout).1).2
  rw [replacesByNoCapital] at hcheck
  unfold replacement at hmem
  generalize row.numbers.map Char.ofNat = target at hcheck hmem
  -- only a row with a single character can be a shift
  rcases target with _ | ⟨single, _ | ⟨second, rest⟩⟩
  · split at hmem
    · cases hmem
    · next heq _ => cases heq
    · cases hmem
  · rw [Bool.or_eq_true, decide_eq_true_eq, decide_eq_true_eq] at hcheck
    split at hmem
    · rw [List.mem_singleton.mp hmem, isUpper_eq_false_iff]
      omega
    · next heq _ =>
      -- the check was for the whole range of the shift, in which `c` lies
      obtain rfl := List.singleton_inj.mp heq
      rw [List.mem_singleton.mp hmem]
      refine isUpper_ofNat ?_
      omega
    · next hnot => exact absurd rfl (hnot single)
  · have htarget : ∀ c ∈ single :: second :: rest, c.isUpper = false := by
      simpa using hcheck
    split at hmem
    · exact htarget d hmem
    · next heq _ => cases heq
    · exact htarget d hmem

/-- Mapping leaves no capital letters. -/
theorem isUpper_of_mem_mapped? {c d : Char} {target : List Char} (h : mapped? c = some target)
    (hmem : d ∈ target) : d.isUpper = false := by
  rw [mapped?] at h
  split_ifs at h with hascii hkept
  · obtain rfl := Option.some.inj h
    rw [List.mem_singleton.mp hmem]
    exact isUpper_toLower c
  · obtain rfl := Option.some.inj h
    rw [List.mem_singleton.mp hmem, isUpper_eq_false_iff]
    right
    have hnot : ¬ c.toNat < 0x80 := fun hlt => hascii (decide_eq_true hlt)
    show 90 < c.toNat
    omega
  · -- only the table is left, whose rows have all been checked
    obtain ⟨⟨row, target'⟩, hfind, rfl⟩ := Option.map_eq_some_iff.mp h
    obtain ⟨row', hrow, heq⟩ := List.mem_map.mp (List.mem_of_find?_eq_some hfind)
    obtain ⟨rfl, rfl⟩ := Prod.mk.inj heq
    have habout : isAbout row' c = true := by
      simpa using List.find?_some hfind
    exact isUpper_of_mem_replacement (Text.check_of_mem_readTable replacedTable_passes hrow)
      habout hmem

/-! ### ASCII -/

/-- What holds of all ASCII characters holds of one of them. -/
theorem of_isAscii {p : Char → Prop} (h : ∀ n : Fin 0x80, p (Char.ofNat n)) {c : Char}
    (hascii : isAscii c = true) : p c := by
  have hc := h ⟨c.toNat, of_decide_eq_true hascii⟩
  rwa [Char.ofNat_toNat] at hc

theorem mapped?_of_isAscii {c : Char} (hascii : isAscii c = true) (h : c.isUpper = false) :
    mapped? c = some [c] := by
  rw [mapped?, if_pos hascii, toLower_of_isUpper_eq_false h]

theorem composed_of_isAscii {text : List Char} (h : ∀ c ∈ text, isAscii c = true) :
    Text.composed text = text := by
  refine if_pos (List.all_eq_true.mpr fun c hmem => decide_eq_true ?_)
  have hascii : c.toNat < 0x80 := of_decide_eq_true (h c hmem)
  have hlt : c.toNat < Text.firstMark.toNat := Nat.lt_trans hascii (by decide)
  exact hlt

end Host

end NewsFeed
