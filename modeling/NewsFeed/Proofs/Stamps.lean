/-
Time stamps read back.

What `Instant.write` puts together, `Instant.read` takes apart, piece by piece.  `Scan.Takes` says
that a reader takes a value from the front of a text and leaves the rest; there is one lemma for each
piece, and they are put together along the two definitions.

* `Scan.takes_digits` — a run of digits, whose end is a width or a character that is none;
* `Scan.takes_year`, `Scan.takes_fraction` — the two pieces with several written forms;
* `Instant.read_write` — every instant is read back from its written form.
-/
import NewsFeed.Proofs.Calendar
import NewsFeed.Time.Stamp

namespace NewsFeed.Time

/-! ### Digits -/

theorem toList_pushn (text : String) (c : Char) (n : ℕ) :
    (text.pushn c n).toList = text.toList ++ List.replicate n c := by
  rw [String.pushn_eq_repeat_push]
  induction n with
  | zero => simp [Nat.repeat]
  | succ n ih => rw [Nat.repeat, String.toList_push, ih, List.replicate_succ', List.append_assoc]

theorem toList_padded (width n : ℕ) : (padded width n).toList =
    List.replicate (width - (Nat.toDigits 10 n).length) '0' ++ Nat.toDigits 10 n := by
  rw [padded, String.toList_append, toList_pushn, ← String.length_toList, Nat.toString_eq_repr,
    Nat.toList_repr]
  rfl

theorem isDigit_padded {width n : ℕ} {c : Char} (hc : c ∈ (padded width n).toList) :
    c.isDigit = true := by
  rw [toList_padded] at hc
  rcases List.mem_append.mp hc with hzero | hdigit
  · rw [List.eq_of_mem_replicate hzero]
    rfl
  · exact Nat.isDigit_of_mem_toDigits (by decide) (by decide) hdigit

theorem padded_ne_nil (width n : ℕ) : (padded width n).toList ≠ [] := by
  rw [toList_padded]
  exact List.append_ne_nil_of_right_ne_nil _ Nat.toDigits_ne_nil

theorem ofDigitChars_padded (width n : ℕ) :
    Nat.ofDigitChars 10 (padded width n).toList 0 = n := by
  rw [toList_padded, Nat.ofDigitChars_append, Nat.ofDigitChars_replicate_zero, mul_zero,
    Nat.ofDigitChars_ten_toDigits]

theorem length_padded {width n : ℕ} (hwidth : 0 < width) (hn : n < 10 ^ width) :
    (padded width n).toList.length = width := by
  have hlength := (Nat.length_toDigits_le_iff (b := 10) (by decide) hwidth).mpr hn
  rw [toList_padded, List.length_append, List.length_replicate]
  omega

namespace Scan

variable {α β : Type}

/-- The reader takes `value` from the front of `chars` and leaves `rest`. -/
def Takes (scan : Scan α) (chars : List Char) (value : α) (rest : List Char) : Prop :=
  scan.run chars = .ok (value, rest)

theorem Takes.bind {scan : Scan α} {next : α → Scan β} {chars mid rest : List Char} {value : α}
    {result : β} (h : scan.Takes chars value mid) (hnext : (next value).Takes mid result rest) :
    (scan >>= next).Takes chars result rest := by
  rw [Takes, StateT.run_bind, h]
  exact hnext

theorem Takes.pure (value : α) (chars : List Char) : Takes (Pure.pure value) chars value chars :=
  rfl

theorem Takes.get_bind {next : List Char → Scan β} {chars rest : List Char} {result : β}
    (h : (next chars).Takes chars result rest) : (get >>= next).Takes chars result rest :=
  h

theorem Takes.set_bind {next : PUnit → Scan β} {chars chars' rest : List Char} {result : β}
    (h : (next ⟨⟩).Takes chars' result rest) : (set chars' >>= next).Takes chars result rest :=
  h

theorem takes_blanks {chars : List Char} (h : ∀ c ∈ chars.head?, Text.isBlank c = false) :
    blanks.Takes chars () chars := by
  have htrim : Text.trimStart chars = chars := by
    cases chars with
    | nil => rfl
    | cons c rest => exact List.dropWhile_cons_of_neg (by simp [h c rfl])
  show Except.ok ((), Text.trimStart chars) = _
  rw [htrim]

theorem takes_literal (c : Char) (rest : List Char) : (literal c).Takes (c :: rest) () rest := by
  simp [literal, Takes]
  rfl

theorem takeWhile_isDigit_append {text rest : List Char} (hdigits : ∀ c ∈ text, c.isDigit = true)
    (hend : ∀ c ∈ rest.head?, c.isDigit = false) :
    (text ++ rest).takeWhile Char.isDigit = text := by
  rw [List.takeWhile_append_of_pos hdigits]
  cases rest with
  | nil => simp
  | cons c rest => rw [List.takeWhile_cons_of_neg (by simp [hend c rfl]), List.append_nil]

theorem takes_digits {width : ℕ} {text : List Char} (rest : List Char)
    (hdigits : ∀ c ∈ text, c.isDigit = true) (hne : text ≠ []) (hlength : text.length ≤ width)
    (hend : text.length = width ∨ ∀ c ∈ rest.head?, c.isDigit = false) :
    (digits width).Takes (text ++ rest) (Nat.ofDigitChars 10 text 0, text.length) rest := by
  have hfound : ((text ++ rest).take width).takeWhile Char.isDigit = text := by
    rw [List.take_append, List.take_of_length_le hlength]
    refine takeWhile_isDigit_append hdigits fun c hc => ?_
    -- either the width is reached or no digit follows
    rcases hend with hwidth | hend
    · simp [hwidth] at hc
    · rw [List.head?_take] at hc
      split at hc
      · simp at hc
      · exact hend c hc
  have hnonempty : ¬ text.isEmpty = true := by
    rw [List.isEmpty_iff]
    exact hne
  refine .get_bind ?_
  simp only [hfound, if_neg hnonempty]
  refine .set_bind ?_
  rw [List.drop_left]
  exact .pure _ _

theorem not_blank_of_isDigit {c : Char} (hc : c.isDigit = true) : Text.isBlank c = false := by
  have hrange : 48 ≤ c.toNat ∧ c.toNat ≤ 57 := Char.isDigit_iff_toNat.mp hc
  simp only [Text.isBlank, Bool.or_eq_false_iff, Bool.and_eq_false_iff, decide_eq_false_iff_not]
  omega

theorem takes_padded {width n : ℕ} (hwidth : 0 < width) (hn : n < 10 ^ width) (rest : List Char) :
    (digits width).Takes ((padded width n).toList ++ rest) (n, width) rest := by
  have hlength := length_padded hwidth hn
  have htakes := takes_digits rest (fun _ => isDigit_padded) (padded_ne_nil width n)
    hlength.le (.inl hlength)
  rwa [ofDigitChars_padded, hlength] at htakes

theorem takes_blanks_padded (width n : ℕ) (rest : List Char) :
    blanks.Takes ((padded width n).toList ++ rest) () ((padded width n).toList ++ rest) := by
  obtain ⟨c, others, hcons⟩ := List.exists_cons_of_ne_nil (padded_ne_nil width n)
  rw [hcons]
  refine takes_blanks ?_
  rintro _ ⟨⟩
  exact not_blank_of_isDigit (isDigit_padded (hcons ▸ List.mem_cons_self))

theorem takes_number {least greatest n : ℕ} (hn : least ≤ n ∧ n ≤ greatest) (hwidth : n < 100)
    (rest : List Char) :
    (number least greatest).Takes ((padded 2 n).toList ++ rest) n rest := by
  refine (takes_blanks_padded 2 n rest).bind ((takes_padded (by decide) hwidth rest).bind ?_)
  show Takes (if n < least ∨ greatest < n then _ else _) rest n rest
  rw [if_neg (by omega)]
  exact .pure n rest

theorem takes_separator (rest : List Char) : separator.Takes ('T' :: rest) () rest :=
  rfl

theorem takes_offset (rest : List Char) : offset.Takes ('Z' :: rest) 0 rest :=
  rfl

/-- Digits that stop before a character that is none. -/
theorem takes_padded_within (places n : ℕ) (c : Char) (rest : List Char) {width : ℕ}
    (hwidth : (padded places n).toList.length ≤ width) (hc : c.isDigit = false) :
    (digits width).Takes ((padded places n).toList ++ c :: rest)
      (n, (padded places n).toList.length) (c :: rest) := by
  have htakes := takes_digits (c :: rest) (fun _ => isDigit_padded)
    (padded_ne_nil places n) hwidth (.inr (by rintro _ ⟨⟩; exact hc))
  rwa [ofDigitChars_padded] at htakes

theorem takes_year {y : ℤ} (hy : y.natAbs ≤ 999999) (rest : List Char) :
    year.Takes ((writeYear y).toList ++ '-' :: rest) y ('-' :: rest) := by
  rw [writeYear]
  split
  -- four digits without a sign: the first character is none
  case isTrue hplain =>
    refine (takes_blanks_padded 4 y.toNat _).bind (.get_bind ?_)
    obtain ⟨c, others, hcons⟩ := List.exists_cons_of_ne_nil (padded_ne_nil 4 y.toNat)
    have hdigit : c.isDigit = true := isDigit_padded (hcons ▸ List.mem_cons_self)
    have htakes : (digits 4).Takes ((padded 4 y.toNat).toList ++ '-' :: rest) (y.toNat, 4)
        ('-' :: rest) := takes_padded (by decide) (by omega) _
    rw [hcons] at htakes ⊢
    split
    · rename_i heq
      obtain ⟨rfl, -⟩ := List.cons.inj heq
      cases hdigit
    · rename_i heq
      obtain ⟨rfl, -⟩ := List.cons.inj heq
      cases hdigit
    · refine htakes.bind ?_
      show Takes (pure (y.toNat : ℤ)) _ _ _
      rw [Int.toNat_of_nonneg hplain.1]
      exact .pure _ _
  -- another year has a sign and as many digits as it needs
  case isFalse hsigned =>
    have hwidth : (padded 4 y.natAbs).toList.length ≤
        ((padded 4 y.natAbs).toList ++ '-' :: rest).length := by
      rw [List.length_append]
      omega
    have htakes := takes_padded_within 4 y.natAbs '-' rest hwidth rfl
    rw [String.toList_append, List.append_assoc]
    split
    case isTrue hneg =>
      rw [show "-".toList = ['-'] from rfl, List.singleton_append]
      refine (takes_blanks (by rintro _ ⟨⟩; rfl)).bind (.get_bind (.set_bind (htakes.bind ?_)))
      show Takes (if 2147483648 < y.natAbs then _ else pure (-(y.natAbs : ℤ))) _ _ _
      rw [if_neg (by omega), show -(y.natAbs : ℤ) = y by omega]
      exact .pure _ _
    case isFalse hpos =>
      rw [show "+".toList = ['+'] from rfl, List.singleton_append]
      refine (takes_blanks (by rintro _ ⟨⟩; rfl)).bind (.get_bind (.set_bind (htakes.bind ?_)))
      show Takes (if 2147483647 < y.natAbs then _ else pure (y.natAbs : ℤ)) _ _ _
      rw [if_neg (by omega), show (y.natAbs : ℤ) = y by omega]
      exact .pure _ _

/-- Decimal places of which the last ones are left out as zeros. -/
theorem takes_places (places n : ℕ) (hplaces : 0 < places ∧ places ≤ 9) (hn : n < 10 ^ places)
    (rest : List Char) :
    fraction.Takes (("." ++ padded places n).toList ++ 'Z' :: rest) (n * 10 ^ (9 - places))
      ('Z' :: rest) := by
  have hlength := length_padded hplaces.1 hn
  have htakes := takes_padded_within places n 'Z' rest (hlength.trans_le hplaces.2) rfl
  rw [hlength] at htakes
  rw [String.toList_append, show ".".toList = ['.'] from rfl, List.append_assoc,
    List.singleton_append]
  exact .get_bind (.set_bind (htakes.bind (.pure _ _)))

theorem takes_fraction {nano : ℕ} (hnano : nano < 1000000000) (rest : List Char) :
    fraction.Takes ((writeFraction nano).toList ++ 'Z' :: rest) nano ('Z' :: rest) := by
  rw [writeFraction]
  split_ifs with hzero hmillis hmicros
  · rw [hzero]
    rfl
  · have htakes := takes_places 3 (nano / 1000000) (by decide) (by omega) rest
    rwa [show nano / 1000000 * 10 ^ (9 - 3) = nano by omega] at htakes
  · have htakes := takes_places 6 (nano / 1000) (by decide) (by omega) rest
    rwa [show nano / 1000 * 10 ^ (9 - 6) = nano by omega] at htakes
  · have htakes := takes_places 9 nano (by decide) (by omega) rest
    rwa [show nano * 10 ^ (9 - 9) = nano by omega] at htakes

end Scan

namespace Instant

theorem of?_eq (t : Instant) : of? t.day t.second t.nano = some t :=
  dif_pos ⟨t.day_range, t.second_lt, t.nano_lt, t.leap_ends_minute⟩

/-- The second that is written, without a leap second. -/
def writtenSecond (t : Instant) : ℕ :=
  t.second % 60 + if t.isLeap then 1 else 0

theorem writtenSecond_le (t : Instant) : t.writtenSecond ≤ 60 := by
  rw [writtenSecond]
  split <;> omega

/-- A leap second is written as second 60, and only a leap second is. -/
theorem ofWritten (t : Instant) :
    (if t.writtenSecond = 60 then (59, t.nano % 1000000000 + 1000000000)
      else (t.writtenSecond, t.nano % 1000000000)) = (t.second % 60, t.nano) := by
  have hnano := t.nano_lt
  by_cases hleap : 1000000000 ≤ t.nano
  · have hlast := t.leap_ends_minute hleap
    have hwritten : t.writtenSecond = 60 := by
      rw [writtenSecond, hlast, if_pos (show t.isLeap = true from decide_eq_true hleap)]
    rw [if_pos hwritten, hlast]
    exact Prod.ext rfl (by omega)
  · have hwritten : t.writtenSecond = t.second % 60 := by
      rw [writtenSecond, if_neg (by rwa [isLeap, decide_eq_true_eq]), add_zero]
    rw [if_neg (by omega), hwritten]
    exact Prod.ext rfl (by omega)

/-- The characters of a written instant. -/
theorem toList_write (t : Instant) : (write t).toList =
    (writeYear (Date.ofDays t.day).year).toList ++ '-' ::
      ((padded 2 (Date.ofDays t.day).month).toList ++ '-' ::
        ((padded 2 (Date.ofDays t.day).day).toList ++ 'T' ::
          ((padded 2 (t.second / 3600)).toList ++ ':' ::
            ((padded 2 (t.second / 60 % 60)).toList ++ ':' ::
              ((padded 2 t.writtenSecond).toList ++
                ((writeFraction (t.nano % 1000000000)).toList ++ ['Z'])))))) := by
  have hsigns : "-".toList = ['-'] ∧ "T".toList = ['T'] ∧ ":".toList = [':'] ∧
      "Z".toList = ['Z'] := ⟨rfl, rfl, rfl, rfl⟩
  obtain ⟨hdash, htime, hcolon, hzone⟩ := hsigns
  simp only [write, writtenSecond, String.toList_append, hdash, htime, hcolon, hzone,
    List.append_assoc, List.cons_append, List.nil_append]

end Instant

namespace Scan

theorem takes_instant (t : Instant) : instant.Takes (Instant.write t).toList t [] := by
  have hdays := Date.toDays_ofDays t.day
  have hexists := Date.exists_ofDays t.day
  have hyear := Date.natAbs_year_ofDays_le t.day_range
  rw [Instant.toList_write]
  generalize Date.ofDays t.day = date at *
  obtain ⟨year, month, day⟩ := date
  have hmonth : 1 ≤ month ∧ month ≤ 12 := ⟨hexists.1, hexists.2.1⟩
  have hday : 1 ≤ day ∧ day ≤ 31 := ⟨hexists.2.2.1, hexists.2.2.2.trans (daysInMonth_le _ _)⟩
  have hsecond := t.second_lt
  have hwritten := t.writtenSecond_le
  -- the pieces are read in the order in which they are written
  refine (takes_year hyear _).bind ?_
  refine (takes_blanks (by rintro _ ⟨⟩; rfl)).bind ((takes_literal '-' _).bind ?_)
  refine (takes_number hmonth (by omega) _).bind ?_
  refine (takes_blanks (by rintro _ ⟨⟩; rfl)).bind ((takes_literal '-' _).bind ?_)
  refine (takes_number hday (by omega) _).bind ((takes_separator _).bind ?_)
  refine (takes_number (by omega) (by omega) _).bind ?_
  refine (takes_blanks (by rintro _ ⟨⟩; rfl)).bind ((takes_literal ':' _).bind ?_)
  refine (takes_number (by omega) (by omega) _).bind ?_
  refine (takes_blanks (by rintro _ ⟨⟩; rfl)).bind ((takes_literal ':' _).bind ?_)
  refine (takes_number ⟨Nat.zero_le _, hwritten⟩ (by omega) _).bind ?_
  refine (takes_fraction (Nat.mod_lt _ (by decide)) []).bind ?_
  refine (takes_blanks (by rintro _ ⟨⟩; rfl)).bind ((takes_offset []).bind ?_)
  refine (takes_blanks (by rintro _ ⟨⟩)).bind (.get_bind ?_)
  -- nothing is left, the date exists and is in the range, and there is no offset
  rw [if_neg (by decide), if_neg ?_, if_neg (by decide)]
  swap
  · rw [hdays, not_or, not_or, not_not, not_lt, not_lt]
    exact ⟨hexists, t.day_range⟩
  simp only [t.ofWritten, hdays]
  have hseconds : ((t.second / 3600 : ℕ) : ℤ) * 3600 + ((t.second / 60 % 60 : ℕ) : ℤ) * 60 +
      ((t.second % 60 : ℕ) : ℤ) - 0 = t.second := by
    omega
  have hsameDay : t.day + (t.second : ℤ) / 86400 = t.day := by omega
  have hsameSecond : ((t.second : ℤ) % 86400).toNat = t.second := by omega
  rw [hseconds, hsameDay, hsameSecond, t.of?_eq]
  exact .pure t []

end Scan

/-- Every instant is read back from its written form. -/
theorem Instant.read_write (t : Instant) : Instant.read (Instant.write t) = .ok t := by
  have htakes : Scan.instant (Instant.write t).toList = .ok (t, []) := Scan.takes_instant t
  rw [Instant.read, StateT.run', htakes]
  rfl

end NewsFeed.Time
