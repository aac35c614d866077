/-
Punycode reads what it writes.

A number in digits is read back with whatever stands behind it (`readNumber_append`).  So a row of
insertions is read back too, as long as each of them stands behind the one before it
(`readInsertions_writeInsertions`).  That the insertions of a text do so, and make the text out of
its ASCII characters, is shown one code point after the other: once all insertions up to a code
point are done, there stand the characters up to this code point (`inserts_insertions`).

* `Inserts` — insertions done one after the other;
* `decode_encode` — the text of the ASCII form of a text;
* `mem_encode` — which characters the ASCII form is made of.
-/
import Mathlib.Data.List.TakeWhile
import NewsFeed.Host.Punycode

namespace NewsFeed.Host.Punycode

/-! ### Numbers -/

theorem digit?_digitChar {digit : ℕ} (h : digit < base) :
    digit? (digitChar digit) = some digit :=
  (by decide : ∀ digit : Fin base, digit? (digitChar digit) = some digit.1) ⟨digit, h⟩

theorem lastDigit_lt_base {bias place number : ℕ} (h : number < thresholdAt bias place) :
    number < base :=
  h.trans_le ((thresholdAt_bounds bias place).2.trans (by decide))

theorem digit_lt_base (bias place n : ℕ) :
    thresholdAt bias place + n % (base - thresholdAt bias place) < base := by
  have hgreatest : thresholdAt bias place < base :=
    Nat.lt_of_le_of_lt (thresholdAt_bounds bias place).2 (by decide)
  have hmod := Nat.mod_lt n (Nat.sub_pos_of_lt hgreatest)
  omega

/-- A number is read back, with what stands behind it left over. -/
theorem readNumber_append (bias place weight sum number : ℕ) (rest : List Char) :
    readNumber bias place weight sum (writeNumber bias place number ++ rest) =
      some (sum + number * weight, rest) := by
  fun_induction writeNumber bias place number generalizing weight sum with
  | case1 place number threshold hlast =>
    rw [List.singleton_append, readNumber, digit?_digitChar (lastDigit_lt_base hlast)]
    exact if_pos hlast
  | case2 place number threshold hmore ih =>
    -- a digit is the remainder and the next number the quotient of one division
    have hnumber : threshold + (number - threshold) % (base - threshold) +
        (number - threshold) / (base - threshold) * (base - threshold) = number := by
      have := Nat.mod_add_div' (number - threshold) (base - threshold)
      omega
    rw [List.cons_append, readNumber, digit?_digitChar (digit_lt_base bias place _)]
    dsimp only
    rw [if_neg (Nat.not_lt.mpr (Nat.le_add_right threshold _)), ih]
    refine congrArg (fun sum => some (sum, rest)) ?_
    calc sum + (threshold + (number - threshold) % (base - threshold)) * weight +
          (number - threshold) / (base - threshold) * (weight * (base - threshold))
        = sum + (threshold + (number - threshold) % (base - threshold) +
          (number - threshold) / (base - threshold) * (base - threshold)) * weight := by
          rw [Nat.mul_comm weight, ← Nat.mul_assoc, Nat.add_assoc, ← Nat.add_mul]
      _ = sum + number * weight := by rw [hnumber]

theorem writeNumber_ne_nil (bias place number : ℕ) : writeNumber bias place number ≠ [] := by
  unfold writeNumber
  dsimp only
  split <;> exact List.cons_ne_nil _ _

/-- Numbers are written in digits. -/
theorem isSome_digit?_of_mem_writeNumber {bias place number : ℕ} {c : Char}
    (h : c ∈ writeNumber bias place number) : (digit? c).isSome = true := by
  fun_induction writeNumber bias place number with
  | case1 place number threshold hlast =>
    rw [List.mem_singleton.mp h, digit?_digitChar (lastDigit_lt_base hlast)]
    rfl
  | case2 place number threshold hmore ih =>
    rcases List.mem_cons.mp h with rfl | h
    · rw [digit?_digitChar (digit_lt_base bias place _)]
      rfl
    · exact ih h

/-! ### Rows of insertions -/

/-- Insertions that make a text out of another one. Each stands behind the one before it; the first
one stands at `place` of `codePoint` or behind. -/
inductive Inserts : (codePoint place : ℕ) → List Char → List Insertion → List Char → Prop where
  | nil {codePoint place : ℕ} {text : List Char} : Inserts codePoint place text [] text
  | cons {codePoint place : ℕ} {text result : List Char} {insertion : Insertion} {c : Char}
      {rest : List Insertion}
      (behind : codePoint < insertion.codePoint ∨
        codePoint = insertion.codePoint ∧ place ≤ insertion.place)
      (fits : insertion.place ≤ text.length) (isChar : c.toNat = insertion.codePoint)
      (goesOn : Inserts insertion.codePoint (insertion.place + 1)
        (text.take insertion.place ++ c :: text.drop insertion.place) rest result) :
      Inserts codePoint place text (insertion :: rest) result

theorem length_le_writeInsertions (codePoint place count bias : ℕ) (isFirst : Bool)
    (insertions : List Insertion) :
    insertions.length ≤
      (writeInsertions codePoint place count bias isFirst insertions).length := by
  induction insertions generalizing codePoint place count bias isFirst with
  | nil => exact Nat.zero_le _
  | cons insertion rest ih =>
    rw [writeInsertions, List.length_append, List.length_cons]
    have hdigits := List.length_pos_iff.mpr (writeNumber_ne_nil bias base
      ((insertion.codePoint - codePoint) * (count + 1) + insertion.place - place))
    have hrest := ih insertion.codePoint (insertion.place + 1) (count + 1)
      (adapt ((insertion.codePoint - codePoint) * (count + 1) + insertion.place - place)
        (count + 1) isFirst) false
    omega

theorem char?_toNat (c : Char) : char? c.toNat = some c := by
  have hvalid : Nat.isValidChar c.toNat := c.valid
  rw [char?, if_pos hvalid, Char.ofNat_toNat]

/-- The steps to an insertion lead to its place, and to its code point. -/
theorem steps_to_insertion {codePoint place count : ℕ} {insertion : Insertion}
    (hplace : place ≤ count) (behind : codePoint < insertion.codePoint ∨
      codePoint = insertion.codePoint ∧ place ≤ insertion.place)
    (fits : insertion.place ≤ count) :
    let steps := place +
      ((insertion.codePoint - codePoint) * (count + 1) + insertion.place - place)
    codePoint + steps / (count + 1) = insertion.codePoint ∧
      steps % (count + 1) = insertion.place := by
  -- the next insertion is not behind, so the difference is taken without a loss
  have hle : place ≤ (insertion.codePoint - codePoint) * (count + 1) + insertion.place := by
    rcases behind with hlt | ⟨-, hle⟩
    · have := Nat.le_mul_of_pos_left (count + 1) (Nat.sub_pos_of_lt hlt)
      omega
    · exact hle.trans (Nat.le_add_left _ _)
  have hcodePoint : codePoint ≤ insertion.codePoint := by
    omega
  have hsmall : insertion.place < count + 1 := Nat.lt_succ_of_le fits
  dsimp only
  rw [Nat.add_sub_cancel' hle, Nat.add_comm _ insertion.place,
    Nat.add_mul_div_right _ _ (Nat.succ_pos count), Nat.add_mul_mod_self_right,
    Nat.div_eq_of_lt hsmall, Nat.mod_eq_of_lt hsmall, Nat.zero_add]
  exact ⟨Nat.add_sub_cancel' hcodePoint, rfl⟩

/-- One turn of reading insertions. -/
theorem readInsertions_of_readNumber {codePoint place bias delta turns : ℕ} {isFirst : Bool}
    {text chars rest : List Char} {c : Char} (hne : chars ≠ [])
    (hread : readNumber bias base 1 0 chars = some (delta, rest))
    (hchar : char? (codePoint + (place + delta) / (text.length + 1)) = some c) :
    readInsertions codePoint place bias isFirst text (turns + 1) chars =
      readInsertions (codePoint + (place + delta) / (text.length + 1))
        ((place + delta) % (text.length + 1) + 1) (adapt delta (text.length + 1) isFirst) false
        (text.take ((place + delta) % (text.length + 1)) ++
          c :: text.drop ((place + delta) % (text.length + 1))) turns rest := by
  cases chars with
  | nil => exact absurd rfl hne
  | cons first others =>
    rw [readInsertions, hread]
    · simp only [Option.bind_eq_bind, Option.bind_some, hchar]
    · exact hne

/-- A row of insertions is read back. -/
theorem readInsertions_writeInsertions {codePoint place : ℕ} {text result : List Char}
    {insertions : List Insertion} (h : Inserts codePoint place text insertions result)
    (hplace : place ≤ text.length) (bias : ℕ) (isFirst : Bool) {turns : ℕ}
    (hturns : insertions.length ≤ turns) :
    readInsertions codePoint place bias isFirst text turns
      (writeInsertions codePoint place text.length bias isFirst insertions) = some result := by
  induction h generalizing bias isFirst turns with
  | nil => rw [writeInsertions, readInsertions]
  | @cons codePoint place text result insertion c rest behind fits isChar goesOn ih =>
    -- one turn for each insertion
    obtain ⟨turns, rfl⟩ : ∃ fewer, turns = fewer + 1 :=
      Nat.exists_eq_add_one_of_ne_zero (Nat.ne_zero_of_lt hturns)
    obtain ⟨hcodePoint, hsteps⟩ := steps_to_insertion hplace behind fits
    have hlength : (text.take insertion.place ++ c :: text.drop insertion.place).length =
        text.length + 1 := by
      rw [List.length_append, List.length_cons, List.length_take_of_le fits, List.length_drop]
      omega
    rw [writeInsertions]
    generalize (insertion.codePoint - codePoint) * (text.length + 1) + insertion.place - place =
      delta at hcodePoint hsteps ⊢
    -- the number is read back, and `steps_to_insertion` finds the place and the character from it
    have hread : ∀ rest, readNumber bias base 1 0 (writeNumber bias base delta ++ rest) =
        some (delta, rest) := fun rest => by
      rw [readNumber_append, Nat.mul_one, Nat.zero_add]
    have hchar : char? (codePoint + (place + delta) / (text.length + 1)) = some c := by
      rw [hcodePoint, ← isChar, char?_toNat]
    rw [readInsertions_of_readNumber (List.append_ne_nil_of_left_ne_nil
      (writeNumber_ne_nil bias base delta) _) (hread _) hchar, hcodePoint, hsteps, ← hlength]
    exact ih (by omega) _ false (Nat.le_of_succ_le_succ hturns)

/-! ### The insertions of a text -/

/-- The characters of a text up to a code point. -/
def upTo (codePoint : ℕ) (text : List Char) : List Char :=
  text.filter fun c => c.toNat ≤ codePoint

/-- The characters of a text below a code point. -/
def below (codePoint : ℕ) (text : List Char) : List Char :=
  text.filter fun c => c.toNat < codePoint

/-- The insertions of the characters of one code point. `after` is the part of the text from `start`
on. -/
def insertionsOf (text : List Char) (codePoint start : ℕ) (after : List Char) : List Insertion :=
  (after.zipIdx start).filterMap fun (c, index) =>
    if c.toNat = codePoint then
      some { codePoint, place := (text.take index).countP fun d => d.toNat ≤ codePoint }
    else none

/-- The code points of a text beyond ASCII, each once, in ascending order. -/
def codePoints (text : List Char) : List ℕ :=
  ((text.map Char.toNat).filter fun n => firstCodePoint ≤ n).eraseDups.mergeSort (· ≤ ·)

theorem insertions_eq (text : List Char) :
    insertions text = (codePoints text).flatMap fun n => insertionsOf text n 0 text := rfl

theorem upTo_concat_of_le {n : ℕ} {c : Char} (h : c.toNat ≤ n) (text : List Char) :
    upTo n (text ++ [c]) = upTo n text ++ [c] := by
  simp [upTo, h]

theorem upTo_concat_of_lt {n : ℕ} {c : Char} (h : n < c.toNat) (text : List Char) :
    upTo n (text ++ [c]) = upTo n text := by
  simp [upTo, h]

theorem below_cons_of_lt {n : ℕ} {c : Char} (h : c.toNat < n) (text : List Char) :
    below n (c :: text) = c :: below n text :=
  List.filter_cons_of_pos (decide_eq_true h)

theorem below_cons_of_le {n : ℕ} {c : Char} (h : n ≤ c.toNat) (text : List Char) :
    below n (c :: text) = below n text :=
  List.filter_cons_of_neg (by simpa using h)

theorem insertionsOf_cons_of_ne {text : List Char} {n start : ℕ} {c : Char} (h : c.toNat ≠ n)
    (after : List Char) :
    insertionsOf text n start (c :: after) = insertionsOf text n (start + 1) after := by
  simp [insertionsOf, List.zipIdx_cons, h]

theorem insertionsOf_cons (text : List Char) (start : ℕ) (c : Char) (after : List Char) :
    insertionsOf text c.toNat start (c :: after) =
      { codePoint := c.toNat, place := (upTo c.toNat (text.take start)).length } ::
        insertionsOf text c.toNat (start + 1) after := by
  simp [insertionsOf, List.zipIdx_cons, upTo, List.countP_eq_length_filter]

/-- The insertions of one code point. In front of what is left of the text the characters up to the
code point are in place, behind it those below. -/
theorem inserts_insertionsOf {n codePoint place : ℕ} {text result before after : List Char}
    {more : List Insertion}
    (hmore : ∀ codePoint place, codePoint ≤ n → Inserts codePoint place (upTo n text) more result)
    (htext : text = before ++ after)
    (hbehind : codePoint < n ∨ codePoint = n ∧ place ≤ (upTo n before).length) :
    Inserts codePoint place (upTo n before ++ below n after)
      (insertionsOf text n before.length after ++ more) result := by
  induction after generalizing before codePoint place with
  | nil =>
    rw [List.append_nil] at htext
    have hle : codePoint ≤ n := by
      omega
    simpa [htext, below, insertionsOf] using hmore codePoint place hle
  | cons c after ih =>
    have hnext : text = (before ++ [c]) ++ after := by
      rw [htext, List.append_assoc, List.singleton_append]
    -- a character below `n` is already there, `n` itself is inserted now, and the others come later
    rcases Nat.lt_trichotomy c.toNat n with hlt | heq | hgt
    · rw [insertionsOf_cons_of_ne hlt.ne, below_cons_of_lt hlt]
      have hgoes := @ih codePoint place (before ++ [c]) hnext
      rw [upTo_concat_of_le hlt.le, List.length_append, List.length_append, List.append_assoc,
        List.singleton_append] at hgoes
      exact hgoes (by simp only [List.length_singleton]; omega)
    · subst heq
      have htake : text.take before.length = before := by
        rw [htext, List.take_left]
      have hgoes := @ih c.toNat ((upTo c.toNat before).length + 1) (before ++ [c]) hnext
      rw [upTo_concat_of_le le_rfl, List.length_append, List.length_append, List.append_assoc,
        List.singleton_append] at hgoes
      rw [insertionsOf_cons, htake, below_cons_of_le le_rfl, List.cons_append]
      refine .cons hbehind ?_ rfl ?_
      · rw [List.length_append]
        exact Nat.le_add_right _ _
      · rw [List.take_left, List.drop_left]
        exact hgoes (.inr ⟨rfl, le_rfl⟩)
    · rw [insertionsOf_cons_of_ne hgt.ne', below_cons_of_le hgt.le]
      have hgoes := @ih codePoint place (before ++ [c]) hnext
      rw [upTo_concat_of_lt hgt, List.length_append] at hgoes
      exact hgoes hbehind

theorem nodup_eraseDups (items : List ℕ) : items.eraseDups.Nodup := by
  match items with
  | [] => exact List.nodup_nil
  | first :: rest =>
    rw [List.eraseDups_cons, List.nodup_cons, List.mem_eraseDups]
    exact ⟨by simp, nodup_eraseDups _⟩
termination_by items.length
decreasing_by exact Nat.lt_succ_of_le (List.length_filter_le _ _)

theorem codePoints_ascending (text : List Char) : (codePoints text).Pairwise (· < ·) := by
  have hsorted : (codePoints text).Pairwise fun m n => decide (m ≤ n) = true :=
    List.pairwise_mergeSort (by simpa using fun _ _ _ => Nat.le_trans)
      (by simpa using Nat.le_total) _
  have hnodup : (codePoints text).Nodup :=
    (List.mergeSort_perm _ _).nodup_iff.mpr (nodup_eraseDups _)
  exact hsorted.imp₂ (fun m n hle hne => lt_of_le_of_ne (of_decide_eq_true hle) hne) hnodup

theorem mem_codePoints {text : List Char} {n : ℕ} :
    n ∈ codePoints text ↔ firstCodePoint ≤ n ∧ n ∈ text.map Char.toNat := by
  rw [codePoints, List.mem_mergeSort, List.mem_eraseDups, List.mem_filter, decide_eq_true_eq,
    and_comm]

/-- The insertions of ascending code points. -/
theorem inserts_flatMap {codePoint place : ℕ} {text : List Char} {rest : List ℕ}
    (hascending : rest.Pairwise (· < ·))
    (hplaced : ∀ c ∈ text, c.toNat ∈ rest ∨ ∀ n ∈ rest, c.toNat < n)
    (hbehind : ∀ n ∈ rest, codePoint < n ∨ codePoint = n ∧ place = 0) :
    Inserts codePoint place (text.filter fun c => c.toNat ∉ rest)
      (rest.flatMap fun n => insertionsOf text n 0 text) text := by
  induction rest generalizing codePoint place with
  | nil =>
    rw [List.flatMap_nil, List.filter_eq_self.mpr (by simp)]
    exact .nil
  | cons n rest ih =>
    obtain ⟨hleast, hrest⟩ := List.pairwise_cons.mp hascending
    -- The characters of `text` that have been placed are those below `n`, and once `n` is done
    -- those up to `n`.
    have hbelow : (text.filter fun c => c.toNat ∉ n :: rest) = below n text := by
      refine List.filter_congr fun c hc => decide_eq_decide.mpr ⟨fun hnot => ?_, fun hlt hmem => ?_⟩
      · exact (hplaced c hc).resolve_left hnot n List.mem_cons_self
      · rcases List.mem_cons.mp hmem with heq | hmem
        · exact hlt.ne heq
        · exact hlt.asymm (hleast _ hmem)
    have hupTo : upTo n text = text.filter fun c => c.toNat ∉ rest := by
      refine List.filter_congr fun c hc => decide_eq_decide.mpr ⟨fun hle hmem => ?_, fun hnot => ?_⟩
      · exact hle.not_gt (hleast _ hmem)
      · rcases hplaced c hc with hmem | hlt
        · exact ((List.mem_cons.mp hmem).resolve_right hnot).le
        · exact (hlt n List.mem_cons_self).le
    rw [hbelow, List.flatMap_cons]
    refine @inserts_insertionsOf n codePoint place text text [] text _
      (fun codePoint place hle => ?_) rfl (by simpa [upTo] using hbehind n List.mem_cons_self)
    rw [hupTo]
    refine ih hrest (fun c hc => ?_) fun m hm => .inl (hle.trans_lt (hleast m hm))
    rcases hplaced c hc with hmem | hlt
    · rcases List.mem_cons.mp hmem with heq | hmem
      · exact .inr fun m hm => heq.trans_lt (hleast m hm)
      · exact .inl hmem
    · exact .inr fun m hm => hlt m (List.mem_cons_of_mem _ hm)

/-- The insertions of a text make it out of its ASCII characters. -/
theorem inserts_insertions (text : List Char) :
    Inserts firstCodePoint 0 (text.filter fun c => c.toNat < firstCodePoint) (insertions text)
      text := by
  have hbasic : (text.filter fun c => c.toNat < firstCodePoint) =
      text.filter fun c => c.toNat ∉ codePoints text := by
    refine List.filter_congr fun c hc => decide_eq_decide.mpr ?_
    rw [mem_codePoints, not_and_or, Nat.not_le]
    exact ⟨.inl, fun h => h.resolve_right fun hnot => hnot (List.mem_map_of_mem hc)⟩
  rw [hbasic, insertions_eq]
  refine inserts_flatMap (codePoints_ascending text) (fun c hc => ?_) fun n hn => ?_
  · by_cases hbeyond : firstCodePoint ≤ c.toNat
    · exact .inl (mem_codePoints.mpr ⟨hbeyond, List.mem_map_of_mem hc⟩)
    · exact .inr fun n hn => lt_of_lt_of_le (Nat.lt_of_not_le hbeyond) (mem_codePoints.mp hn).1
  · exact (mem_codePoints.mp hn).1.lt_or_eq.imp_right fun heq => ⟨heq, rfl⟩

/-! ### Whole texts -/

theorem isSome_digit?_of_mem_writeInsertions {codePoint place count bias : ℕ} {isFirst : Bool}
    {insertions : List Insertion} {c : Char}
    (h : c ∈ writeInsertions codePoint place count bias isFirst insertions) :
    (digit? c).isSome = true := by
  induction insertions generalizing codePoint place count bias isFirst with
  | nil => cases h
  | cons insertion rest ih =>
    rw [writeInsertions] at h
    rcases List.mem_append.mp h with h | h
    · exact isSome_digit?_of_mem_writeNumber h
    · exact ih h

theorem hyphen_notMem_of_digits {digits : List Char} (h : ∀ c ∈ digits, (digit? c).isSome = true) :
    '-' ∉ digits := by
  intro hmem
  cases h '-' hmem

/-- A hyphen behind the ASCII characters ends them, since there is none among the digits. -/
theorem splitBasic_append {basic digits : List Char} (hbasic : basic ≠ []) (h : '-' ∉ digits) :
    splitBasic (basic ++ '-' :: digits) = (basic, digits) := by
  have hdigits : ∀ c ∈ digits.reverse, decide (c ≠ '-') = true := by
    intro c hmem
    exact decide_eq_true fun heq => h (heq ▸ List.mem_reverse.mp hmem)
  have hextended : ((basic ++ '-' :: digits).reverse.takeWhile (· ≠ '-')).reverse = digits := by
    rw [List.reverse_append, List.reverse_cons, List.append_assoc,
      List.takeWhile_append_of_pos hdigits, List.singleton_append,
      List.takeWhile_cons_of_neg (by simp), List.append_nil, List.reverse_reverse]
  have hbefore : (basic ++ '-' :: digits).length - digits.length = basic.length + 1 := by
    rw [List.length_append, List.length_cons]
    omega
  have hlength := List.length_pos_iff.mpr hbasic
  rw [splitBasic, hextended]
  rw [hbefore, if_neg (by omega), Nat.add_sub_cancel, List.take_left, List.drop_append,
    List.drop_eq_nil_of_le (Nat.le_succ _), Nat.add_sub_cancel_left]
  rfl

theorem splitBasic_of_notMem {digits : List Char} (h : '-' ∉ digits) :
    splitBasic digits = ([], digits) := by
  have hdigits : ∀ c ∈ digits.reverse, decide (c ≠ '-') = true := by
    intro c hmem
    exact decide_eq_true fun heq => h (heq ▸ List.mem_reverse.mp hmem)
  have hextended : (digits.reverse.takeWhile (· ≠ '-')).reverse = digits := by
    rw [List.takeWhile_eq_self_iff.mpr hdigits, List.reverse_reverse]
  rw [splitBasic, hextended]
  rw [Nat.sub_self, if_pos (Nat.zero_le 1)]

theorem splitBasic_encode (text : List Char) :
    splitBasic (encode text) = (text.filter fun c => c.toNat < firstCodePoint,
      writeInsertions firstCodePoint 0 (text.filter fun c => c.toNat < firstCodePoint).length
        firstBias true (insertions text)) := by
  have hhyphen := hyphen_notMem_of_digits fun c =>
    @isSome_digit?_of_mem_writeInsertions firstCodePoint 0
      (text.filter fun c => c.toNat < firstCodePoint).length firstBias true (insertions text) c
  rw [encode]
  cases hbasic : text.filter fun c => c.toNat < firstCodePoint with
  | nil =>
    rw [hbasic] at hhyphen
    exact splitBasic_of_notMem hhyphen
  | cons first rest =>
    rw [hbasic] at hhyphen
    rw [if_neg (by simp), List.append_assoc, List.singleton_append]
    exact splitBasic_append (List.cons_ne_nil _ _) hhyphen

/-- The ASCII form of a text stands for that text. -/
theorem decode_encode (text : List Char) : decode (encode text) = some text := by
  rw [decode, splitBasic_encode]
  exact readInsertions_writeInsertions (inserts_insertions text) (Nat.zero_le _) firstBias true
    (length_le_writeInsertions _ _ _ _ _ _)

/-- What the ASCII form of a text is made of. -/
theorem mem_encode {text : List Char} {c : Char} (h : c ∈ encode text) :
    c ∈ text ∧ c.toNat < firstCodePoint ∨ c = '-' ∨ (digit? c).isSome = true := by
  rw [encode] at h
  have hbasic : ∀ basic : List Char, c ∈ (if basic.isEmpty then [] else basic ++ ['-']) →
      c ∈ basic ∨ c = '-' := by
    intro basic hmem
    split at hmem
    · cases hmem
    · simpa using hmem
  rcases List.mem_append.mp h with h | h
  · rcases hbasic _ h with h | h
    · exact .inl ⟨(List.mem_filter.mp h).1, of_decide_eq_true (List.mem_filter.mp h).2⟩
    · exact .inr (.inl h)
  · exact .inr (.inr (isSome_digit?_of_mem_writeInsertions h))

end NewsFeed.Host.Punycode
