/-
Hosts that are numbers, read and written.

The written form of an IP address is read as the same address.  For IPv4 this is a matter of four
numbers in decimal digits.  For IPv6 the two colons have to be found again: none stand in a row in
pieces with colons between them (`cut?_joinPieces_append`), and what they stand for is a run of
zeros (`longestZeros_isRun`).

* `Text.hexValue?_toDigits` — hexadecimal digits;
* `Ipv4.ofLabels?_labels` — IPv4 addresses;
* `Ipv6.read?_write` — IPv6 addresses, if all pieces have 16 bits, as they have after reading
  (`Ipv6.lt_of_read?`).
-/
import Mathlib.Data.List.Induction
import Mathlib.Data.List.TakeWhile
import Mathlib.Tactic.Ring
import NewsFeed.Host.Basic
import NewsFeed.Proofs.Pieces

namespace NewsFeed

/-! ### Hexadecimal digits -/

namespace Text

theorem hexDigit?_digitChar {digit : ℕ} (h : digit < 16) :
    hexDigit? digit.digitChar = some digit :=
  (by decide : ∀ digit : Fin 16, hexDigit? digit.1.digitChar = some digit.1) ⟨digit, h⟩

theorem hexDigit?_lt {c : Char} {digit : ℕ} (h : hexDigit? c = some digit) : digit < 16 := by
  unfold hexDigit? at h
  split_ifs at h with hdecimal hsmall hcapital <;> obtain rfl := Option.some.inj h
  · have hlast : c.toNat ≤ 57 := hdecimal.2
    show c.toNat - 48 < 16
    omega
  · have hlast : c.toNat ≤ 102 := hsmall.2
    show c.toNat - 97 + 10 < 16
    omega
  · have hlast : c.toNat ≤ 70 := hcapital.2
    show c.toNat - 65 + 10 < 16
    omega

theorem hexValue?_concat (digits : List Char) (c : Char) :
    hexValue? (digits ++ [c]) =
      (hexValue? digits).bind fun sum => (hexDigit? c).map (16 * sum + ·) := by
  rw [hexValue?, List.foldlM_append, hexValue?]
  simp

/-- A number in hexadecimal digits is read back. -/
theorem hexValue?_toDigits (n : ℕ) : hexValue? (Nat.toDigits 16 n) = some n := by
  induction n using Nat.strong_induction_on with
  | _ n ih =>
    by_cases hsmall : n < 16
    · rw [Nat.toDigits_of_lt_base hsmall, ← List.nil_append [_], hexValue?_concat,
        hexDigit?_digitChar hsmall]
      simp [hexValue?]
    · have hbase : 16 ≤ n := Nat.le_of_not_lt hsmall
      rw [Nat.toDigits_of_base_le (by decide) hbase, hexValue?_concat,
        ih _ (Nat.div_lt_self (by omega) (by decide)),
        hexDigit?_digitChar (Nat.mod_lt n (by decide))]
      simp [Nat.div_add_mod]

theorem isSome_hexDigit?_of_mem_toDigits {n : ℕ} {c : Char} (h : c ∈ Nat.toDigits 16 n) :
    (hexDigit? c).isSome = true := by
  induction n using Nat.strong_induction_on with
  | _ n ih =>
    by_cases hsmall : n < 16
    · rw [Nat.toDigits_of_lt_base hsmall, List.mem_singleton] at h
      rw [h, hexDigit?_digitChar hsmall]
      rfl
    · have hbase : 16 ≤ n := Nat.le_of_not_lt hsmall
      rw [Nat.toDigits_of_base_le (by decide) hbase, List.mem_append, List.mem_singleton] at h
      rcases h with h | rfl
      · exact ih _ (Nat.div_lt_self (by omega) (by decide)) h
      · rw [hexDigit?_digitChar (Nat.mod_lt n (by decide))]
        rfl

/-- Digits stand for less than the next power of their base. -/
theorem hexValue?_lt {digits : List Char} {n : ℕ} (h : hexValue? digits = some n) :
    n < 16 ^ digits.length := by
  induction digits using List.reverseRecOn generalizing n with
  | nil =>
    obtain rfl := Option.some.inj h
    exact Nat.one_pos
  | append_singleton digits c ih =>
    rw [hexValue?_concat] at h
    obtain ⟨sum, hsum, h⟩ := Option.bind_eq_some_iff.mp h
    obtain ⟨digit, hdigit, rfl⟩ := Option.map_eq_some_iff.mp h
    have hlt := hexDigit?_lt hdigit
    have hle := ih hsum
    rw [List.length_append, List.length_singleton, Nat.pow_succ]
    omega

end Text

namespace Host

/-! ### IPv4 -/

namespace Ipv4

/-- The four bytes of an address. -/
def bytes (address : Ipv4) : List ℕ :=
  [3, 2, 1, 0].map fun n => address.value.toNat / Nat.pow 256 n % 256

/-- An address as the labels of a domain. -/
def labels (address : Ipv4) : List (List Char) :=
  address.bytes.map (Nat.toDigits 10)

theorem toList_write (address : Ipv4) : address.write.toList = joinLabels address.labels := by
  rw [write, String.toList_intercalate]
  simp [joinLabels, labels, bytes, Nat.repr]

theorem lt_of_mem_bytes {address : Ipv4} {n : ℕ} (h : n ∈ address.bytes) : n < 256 := by
  obtain ⟨place, -, rfl⟩ := List.mem_map.mp h
  exact Nat.mod_lt _ (by decide)

theorem number?_toDigits {n : ℕ} (h : n < 256) : number? (Nat.toDigits 10 n) = some n :=
  (by decide +kernel : ∀ n : Fin 256, number? (Nat.toDigits 10 n.1) = some n.1) ⟨n, h⟩

theorem withoutLastDot_labels (address : Ipv4) : withoutLastDot address.labels = address.labels :=
  if_neg fun hlast => Nat.toDigits_ne_nil (Option.some.inj hlast)

/-- A written address is that address. -/
theorem ofLabels?_labels (address : Ipv4) : ofLabels? address.labels = some address := by
  have hread : address.labels.mapM number? = some address.bytes :=
    mapM_map_eq_some fun n hn => number?_toDigits (lt_of_mem_bytes hn)
  have hlast : address.bytes.getLast? = some (address.value.toNat % 256) := by
    simp [bytes]
  -- four bytes are neither too many nor too great
  have hfits : ¬ (3 < address.bytes.dropLast.length ∨ address.bytes.dropLast.any (255 < ·) ∨
      Nat.pow 256 (4 - address.bytes.dropLast.length) ≤ address.value.toNat % 256) := by
    have hany : address.bytes.dropLast.any (255 < ·) = false := by
      refine List.any_eq_false.mpr fun n hn => ?_
      have := lt_of_mem_bytes (List.dropLast_subset _ hn)
      simpa using Nat.le_of_lt_succ this
    have hmod := Nat.mod_lt address.value.toNat (by decide : 0 < 256)
    rw [hany]
    simpa [bytes] using hmod
  -- the bytes are the digits of the value to the base 256
  have hsum : address.bytes.dropLast.zipIdx.foldl
      (fun sum entry => sum + entry.1 * Nat.pow 256 (3 - entry.2)) (address.value.toNat % 256) =
      address.value.toNat := by
    have hvalue : address.value.toNat < 4294967296 := address.value.toNat_lt
    simp [bytes]
    omega
  rw [ofLabels?, withoutLastDot_labels, hread]
  simp only [Option.bind_eq_bind, Option.bind_some, hlast]
  rw [if_neg hfits, hsum]
  simp

/-- A written address ends in a number. -/
theorem endsInNumber_labels (address : Ipv4) : endsInNumber address.labels = true := by
  have hread := number?_toDigits (Nat.mod_lt (address.value.toNat / Nat.pow 256 0)
    (by decide : 0 < 256))
  rw [endsInNumber, withoutLastDot_labels]
  show isNumber (Nat.toDigits 10 (address.value.toNat / Nat.pow 256 0 % 256)) = true
  rw [isNumber, hread, Option.isSome_some, Bool.or_true]

end Ipv4

/-! ### IPv6 -/

namespace Ipv6

variable {pieces : List ℕ}

/-- Pieces with colons between them. -/
def joinPieces (pieces : List ℕ) : List Char :=
  [':'].intercalate (pieces.map (Nat.toDigits 16))

theorem toList_writePieces (pieces : List ℕ) :
    (writePieces pieces).toList = joinPieces pieces := by
  rw [writePieces, String.toList_intercalate, List.map_map]
  have hdigits : String.toList ∘ Text.hex = Nat.toDigits 16 :=
    funext fun n => String.toList_ofList
  rw [hdigits]
  rfl

theorem colon_notMem_toDigits (n : ℕ) : ':' ∉ Nat.toDigits 16 n := by
  intro hmem
  cases Text.isSome_hexDigit?_of_mem_toDigits hmem

theorem split_joinPieces (h : pieces ≠ []) :
    Text.split (· = ':') (joinPieces pieces) = pieces.map (Nat.toDigits 16) :=
  Text.split_intercalate (List.forall_mem_map.mpr fun n _ => colon_notMem_toDigits n)
    (by simpa using h)

theorem joinPieces_singleton (n : ℕ) : joinPieces [n] = Nat.toDigits 16 n := by
  simp [joinPieces]

theorem joinPieces_cons_cons (n m : ℕ) (rest : List ℕ) :
    joinPieces (n :: m :: rest) = Nat.toDigits 16 n ++ ':' :: joinPieces (m :: rest) := by
  simp [joinPieces, List.intercalate_cons_cons]

/-- Pieces start with a digit. -/
theorem exists_joinPieces_eq_cons (n : ℕ) (rest : List ℕ) :
    ∃ c others, joinPieces (n :: rest) = c :: others ∧ c ≠ ':' := by
  obtain ⟨c, digits, hdigits⟩ := List.exists_cons_of_ne_nil (@Nat.toDigits_ne_nil n 16)
  have hc : c ≠ ':' := by
    rintro rfl
    exact colon_notMem_toDigits n (hdigits ▸ List.mem_cons_self)
  cases rest with
  | nil => exact ⟨c, digits, by rw [joinPieces_singleton, hdigits], hc⟩
  | cons m rest =>
    exact ⟨c, _, by rw [joinPieces_cons_cons, hdigits, List.cons_append], hc⟩

theorem isEmpty_joinPieces (pieces : List ℕ) : (joinPieces pieces).isEmpty = pieces.isEmpty := by
  cases pieces with
  | nil => rfl
  | cons n rest =>
    obtain ⟨c, others, heq, -⟩ := exists_joinPieces_eq_cons n rest
    rw [heq]
    rfl

/-- The pieces in a text, before they are counted. -/
def pieces? (text : List Char) : Option (List ℕ) :=
  match cut? text with
  | none => piecesToEnd? (Text.split (· = ':') text)
  | some (before, after) =>
    (side? (·.mapM piece?) before).bind fun before =>
      (side? piecesToEnd? after).bind fun after =>
        let missing := 8 - (before.length + after.length)
        if missing = 0 then none else some (before ++ List.replicate missing 0 ++ after)

theorem read?_eq_some_iff {text : List Char} {address : Ipv6} :
    read? text = some address ↔ pieces? text = some address.pieces := by
  -- reading is cutting into pieces and then counting them
  have hread : read? text = (pieces? text).bind fun pieces =>
      if h : pieces.length = 8 then some ⟨pieces, h⟩ else none := by
    rw [read?, pieces?]
    cases cut? text with
    | none => rfl
    | some sides =>
      dsimp only
      cases side? (·.mapM piece?) sides.1 with
      | none => rfl
      | some before =>
        cases side? piecesToEnd? sides.2 with
        | none => rfl
        | some after =>
          simp only [Option.bind_eq_bind, Option.bind_some]
          split <;> rfl
  rw [hread, Option.bind_eq_some_iff]
  constructor
  · rintro ⟨pieces, hpieces, h⟩
    split at h
    · obtain rfl := Option.some.inj h
      exact hpieces
    · cases h
  · exact fun hpieces => ⟨_, hpieces, dif_pos address.size⟩

/-! #### Two colons -/

theorem cut?_cons_of_ne {c : Char} (h : c ≠ ':') (text : List Char) :
    cut? (c :: text) = (cut? text).map fun (before, after) => (c :: before, after) := by
  rw [cut?]
  rintro rest heq -
  exact h heq

theorem cut?_colon_cons_of_ne {c : Char} (h : c ≠ ':') (text : List Char) :
    cut? (':' :: c :: text) =
      (cut? (c :: text)).map fun (before, after) => (':' :: before, after) := by
  rw [cut?]
  rintro rest - heq
  exact h (List.cons.inj heq).1

theorem cut?_append_of_notMem {front : List Char} (h : ':' ∉ front) (text : List Char) :
    cut? (front ++ text) = (cut? text).map fun (before, after) => (front ++ before, after) := by
  induction front with
  | nil => simp
  | cons c rest ih =>
    obtain ⟨hc, hrest⟩ := List.ne_and_not_mem_of_not_mem_cons h
    rw [List.cons_append, cut?_cons_of_ne hc.symm, ih hrest, Option.map_map]
    rfl

/-- There are no two colons in a row in pieces with colons between them. -/
theorem cut?_joinPieces_append (pieces : List ℕ) (text : List Char) :
    cut? (joinPieces pieces ++ text) =
      (cut? text).map fun (before, after) => (joinPieces pieces ++ before, after) := by
  induction pieces with
  | nil => simp [joinPieces]
  | cons n rest ih =>
    have hdigits := colon_notMem_toDigits n
    cases rest with
    | nil => rw [joinPieces_singleton, cut?_append_of_notMem hdigits]
    | cons m rest =>
      obtain ⟨c, others, hrest, hc⟩ := exists_joinPieces_eq_cons m rest
      rw [joinPieces_cons_cons, List.append_assoc, cut?_append_of_notMem hdigits, List.cons_append]
      rw [hrest] at ih ⊢
      rw [List.cons_append, cut?_colon_cons_of_ne hc, ← List.cons_append, ih, Option.map_map,
        Option.map_map]
      refine congrArg (fun add => (cut? text).map add) (funext fun (before, after) => ?_)
      simp

/-- What pieces and the colons between them are made of. -/
theorem mem_joinPieces {c : Char} (h : c ∈ joinPieces pieces) :
    c = ':' ∨ (Text.hexDigit? c).isSome = true := by
  refine (Text.mem_of_mem_intercalate h).imp_right fun ⟨digits, hdigits, hc⟩ => ?_
  obtain ⟨n, -, rfl⟩ := List.mem_map.mp hdigits
  exact Text.isSome_hexDigit?_of_mem_toDigits hc

/-- What a written address is made of. -/
theorem mem_write {address : Ipv6} {c : Char} (h : c ∈ address.write.toList) :
    c = ':' ∨ (Text.hexDigit? c).isSome = true := by
  rw [write] at h
  dsimp only at h
  split at h
  · rw [toList_writePieces] at h
    exact mem_joinPieces h
  · rw [String.toList_append, String.toList_append, toList_writePieces, toList_writePieces] at h
    rcases List.mem_append.mp h with h | h
    · rcases List.mem_append.mp h with h | h
      · exact mem_joinPieces h
      · exact .inl (by simpa using h)
    · exact mem_joinPieces h

/-! #### Pieces -/

theorem piece?_toDigits {n : ℕ} (h : n < 65536) : piece? (Nat.toDigits 16 n) = some n := by
  have hlength : (Nat.toDigits 16 n).length ≤ 4 :=
    (Nat.length_toDigits_le_iff (by decide) (by decide)).mpr h
  rw [piece?, if_neg, Text.hexValue?_toDigits]
  rw [List.isEmpty_iff, not_or, Nat.not_lt]
  exact ⟨Nat.toDigits_ne_nil, hlength⟩

theorem piecesToEnd?_toDigits (h : ∀ n ∈ pieces, n < 65536) :
    piecesToEnd? (pieces.map (Nat.toDigits 16)) = some pieces := by
  induction pieces with
  | nil => rfl
  | cons n rest ih =>
    obtain ⟨hn, hrest⟩ := List.forall_mem_cons.mp h
    cases rest with
    | nil =>
      show ((piece? (Nat.toDigits 16 n)).map ([·])).or _ = _
      rw [piece?_toDigits hn]
      rfl
    | cons m rest =>
      show ((piece? (Nat.toDigits 16 n)).bind fun n => (piecesToEnd? _).bind fun rest =>
        some (n :: rest)) = _
      rw [piece?_toDigits hn, ih hrest]
      rfl

/-- What stands on a side of the two colons is read back. -/
theorem side?_joinPieces {read : List (List Char) → Option (List ℕ)}
    (h : read (pieces.map (Nat.toDigits 16)) = some pieces) :
    side? read (joinPieces pieces) = some pieces := by
  rw [side?, isEmpty_joinPieces]
  cases pieces with
  | nil => rfl
  | cons n rest => rw [List.isEmpty_cons, if_neg (by decide), split_joinPieces (by simp), h]

/-- The longest run of zeros is a run of zeros. -/
theorem longestZeros_isRun (pieces : List ℕ) :
    (longestZeros pieces).2 ≤ zerosAt (pieces.drop (longestZeros pieces).1) := by
  rw [longestZeros]
  refine List.foldlRecOn (motive := fun best : ℕ × ℕ => best.2 ≤ zerosAt (pieces.drop best.1))
    _ _ (Nat.zero_le _) fun best hbest start _ => ?_
  dsimp only
  split
  · exact Nat.le_refl _
  · exact hbest

theorem take_of_le_zerosAt {count : ℕ} (h : count ≤ zerosAt pieces) :
    pieces.take count = List.replicate count 0 := by
  have hfront : pieces.take count <+: pieces.takeWhile (· = 0) := by
    rw [List.prefix_iff_eq_take.mp (List.takeWhile_prefix (l := pieces) (· = 0))]
    exact List.take_prefix_take_left h
  refine List.eq_replicate_iff.mpr ⟨List.length_take_of_le ?_, fun n hn => ?_⟩
  · exact h.trans (List.takeWhile_prefix _).length_le
  · simpa using List.mem_takeWhile_imp (hfront.subset hn)

/-- What is written with a run of zeros left out is the address with these zeros. -/
theorem take_append_replicate_append_drop {start count : ℕ}
    (h : count ≤ zerosAt (pieces.drop start)) :
    pieces.take start ++ List.replicate count 0 ++ pieces.drop (start + count) = pieces := by
  rw [← take_of_le_zerosAt h, List.append_assoc, ← List.drop_drop, List.take_append_drop,
    List.take_append_drop]

/-- A written address is read as that address. -/
theorem read?_write {address : Ipv6} (h : ∀ n ∈ address.pieces, n < 65536) :
    read? address.write.toList = some address := by
  have hread : ∀ {items}, items ⊆ address.pieces →
      (items.map (Nat.toDigits 16)).mapM piece? = some items ∧
      piecesToEnd? (items.map (Nat.toDigits 16)) = some items := fun hitems =>
    ⟨mapM_map_eq_some fun n hn => piece?_toDigits (h n (hitems hn)),
      piecesToEnd?_toDigits fun n hn => h n (hitems hn)⟩
  have hne : address.pieces ≠ [] := by
    intro hnil
    cases hnil ▸ address.size
  have hrun := longestZeros_isRun address.pieces
  rw [read?_eq_some_iff, write]
  -- of the shortened run only its being one counts
  generalize longestZeros address.pieces = run at hrun ⊢
  obtain ⟨start, count⟩ := run
  dsimp only at hrun ⊢
  split
  · -- no run is left out, so there is no `::` to cut at
    have hcut : cut? (joinPieces address.pieces) = none := by
      have := cut?_joinPieces_append address.pieces []
      rwa [List.append_nil] at this
    rw [toList_writePieces, pieces?, hcut]
    dsimp only
    rw [split_joinPieces hne, (hread (List.Subset.refl _)).2]
  · next hlong =>
    have hsize := address.size
    have hlength := (List.takeWhile_prefix (l := address.pieces.drop start) (· = 0)).length_le
    rw [List.length_drop] at hlength
    -- what is missing from eight pieces is as long as the run
    have hmissing : 8 - ((address.pieces.take start).length +
        (address.pieces.drop (start + count)).length) = count := by
      rw [List.length_take, List.length_drop]
      have : count ≤ address.pieces.length - start := hrun.trans hlength
      omega
    have hcut : ∀ text, cut? ("::".toList ++ text) = some ([], text) := fun _ => rfl
    rw [String.toList_append, String.toList_append, toList_writePieces, toList_writePieces,
      List.append_assoc, pieces?, cut?_joinPieces_append, hcut, Option.map_some]
    dsimp only
    rw [List.append_nil, side?_joinPieces (hread (List.take_subset _ _)).1,
      side?_joinPieces (hread (List.drop_subset _ _)).2, Option.bind_some, Option.bind_some]
    -- the zeros are filled in where they were taken out
    rw [hmissing, if_neg (by omega), take_append_replicate_append_drop hrun]

/-! #### What has been read -/

theorem piece?_lt {text : List Char} {n : ℕ} (h : piece? text = some n) : n < 65536 := by
  rw [piece?] at h
  split at h
  · cases h
  · next hfits =>
    calc n < 16 ^ text.length := Text.hexValue?_lt h
      _ ≤ 16 ^ 4 := Nat.pow_le_pow_right (by decide) (Nat.le_of_not_lt fun hlt => hfits (.inr hlt))

theorem byte?_lt {text : List Char} {n : ℕ} (h : byte? text = some n) : n < 256 := by
  rw [byte?] at h
  split at h
  · cases h
  · dsimp only at h
    split at h
    · cases h
    · next hsmall =>
      obtain rfl := Option.some.inj h
      exact Nat.lt_succ_of_le (Nat.le_of_not_lt hsmall)

theorem fourBytes?_lt {text : List Char} (h : fourBytes? text = some pieces) :
    ∀ n ∈ pieces, n < 65536 := by
  obtain ⟨bytes, hbytes, h⟩ := Option.bind_eq_some_iff.mp h
  have hlt : ∀ n ∈ bytes, n < 256 := fun n hn => by
    obtain ⟨text, -, hread⟩ := exists_of_mapM_eq_some hbytes n hn
    exact byte?_lt hread
  split at h
  · next a b c d =>
    obtain rfl := Option.some.inj h
    simp only [List.forall_mem_cons] at hlt ⊢
    refine ⟨?_, ?_, List.forall_mem_nil _⟩ <;> omega
  · cases h

theorem piecesToEnd?_lt {texts : List (List Char)} (h : piecesToEnd? texts = some pieces) :
    ∀ n ∈ pieces, n < 65536 := by
  induction texts generalizing pieces with
  | nil =>
    obtain rfl := Option.some.inj h
    exact List.forall_mem_nil _
  | cons text rest ih =>
    cases rest with
    | nil =>
      rcases Option.or_eq_some_iff.mp h with h | ⟨-, h⟩
      · obtain ⟨n, hn, rfl⟩ := Option.map_eq_some_iff.mp h
        exact List.forall_mem_singleton.mpr (piece?_lt hn)
      · exact fourBytes?_lt h
    | cons next rest =>
      obtain ⟨n, hn, h⟩ := Option.bind_eq_some_iff.mp h
      obtain ⟨others, hothers, h⟩ := Option.bind_eq_some_iff.mp h
      obtain rfl := Option.some.inj h
      exact List.forall_mem_cons.mpr ⟨piece?_lt hn, ih hothers⟩

theorem side?_lt {read : List (List Char) → Option (List ℕ)} {text : List Char}
    (hread : ∀ {texts items}, read texts = some items → ∀ n ∈ items, n < 65536)
    (h : side? read text = some pieces) : ∀ n ∈ pieces, n < 65536 := by
  rw [side?] at h
  split at h
  · obtain rfl := Option.some.inj h
    exact List.forall_mem_nil _
  · exact hread h

/-- The pieces of an address that has been read have 16 bits. -/
theorem lt_of_read? {text : List Char} {address : Ipv6} (h : read? text = some address) :
    ∀ n ∈ address.pieces, n < 65536 := by
  have hpieces := read?_eq_some_iff.mp h
  rw [pieces?] at hpieces
  split at hpieces
  · exact piecesToEnd?_lt hpieces
  · obtain ⟨before, hbefore, hpieces⟩ := Option.bind_eq_some_iff.mp hpieces
    obtain ⟨after, hafter, hpieces⟩ := Option.bind_eq_some_iff.mp hpieces
    have hmapM : ∀ {texts : List (List Char)} {items}, texts.mapM piece? = some items →
        ∀ n ∈ items, n < 65536 := fun hread n hn => by
      obtain ⟨text, -, hpiece⟩ := exists_of_mapM_eq_some hread n hn
      exact piece?_lt hpiece
    dsimp only at hpieces
    split at hpieces
    · cases hpieces
    · rw [← Option.some.inj hpieces]
      intro n hn
      rcases List.mem_append.mp hn with hn | hn
      · rcases List.mem_append.mp hn with hn | hn
        · exact side?_lt hmapM hbefore n hn
        · rw [List.eq_of_mem_replicate hn]
          decide
      · exact side?_lt piecesToEnd?_lt hafter n hn

end Ipv6

end Host

end NewsFeed
