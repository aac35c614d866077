/-
Strings in the order of their bytes.

Strings are compared by their code points.  The bytes that UTF-8 writes them with have the same
order: of two characters the lesser one is written with a lesser byte at the first place where they
differ, also if it is written with fewer bytes.

* `utf8EncodeChar_append_lt` — the bytes of the lesser character come first, whatever follows;
* `lt_iff_utf8Bytes_lt` — strings are in the order of their bytes.
-/
import Mathlib.Data.List.Lex

namespace NewsFeed

/-- The bytes that UTF-8 writes a string with. -/
def utf8Bytes (s : String) : List UInt8 :=
  s.toUTF8.data.toList

theorem utf8Bytes_eq (s : String) : utf8Bytes s = s.toList.flatMap String.utf8EncodeChar := by
  rw [utf8Bytes, String.toUTF8_eq_toByteArray, ← String.utf8Encode_toList, List.utf8Encode,
    List.toList_data_toByteArray]

theorem ofNat_cons_lt_iff {a b : Nat} {rest rest' : List UInt8} (ha : a < 256) (hb : b < 256) :
    UInt8.ofNat a :: rest < UInt8.ofNat b :: rest' ↔ a < b ∨ a = b ∧ rest < rest' := by
  rw [List.cons_lt_cons_iff, UInt8.lt_iff_toNat_lt, ← UInt8.toNat_inj,
    UInt8.toNat_ofNat_of_lt' ha, UInt8.toNat_ofNat_of_lt' hb]

/-- The bytes of the lesser character come first, whatever follows. -/
theorem utf8EncodeChar_append_lt {c d : Char} (h : c < d) (rest rest' : List UInt8) :
    String.utf8EncodeChar c ++ rest < String.utf8EncodeChar d ++ rest' := by
  have hlt : c.val.toNat < d.val.toNat := UInt32.lt_iff_toNat_lt.mp (Char.lt_def.mp h)
  have hrange : d.val.toNat < 0x110000 := by
    have hvalid := d.valid
    unfold UInt32.isValidChar Nat.isValidChar at hvalid
    omega
  unfold String.utf8EncodeChar
  generalize c.val.toNat = v at *
  generalize d.val.toNat = w at *
  -- a byte holds six bits, and what is above them is a quotient of what is above the next byte
  have hdiv (n : Nat) (hn : n < 0x110000) :
      n / 64 / 64 = n / 4096 ∧ n / 4096 / 64 = n / 262144 ∧ n / 262144 / 8 = 0 := by omega
  have hv := hdiv v (by omega)
  have hw := hdiv w hrange
  dsimp only
  -- by the numbers of bytes, from one to four each
  split_ifs <;> simp only [List.cons_append, List.nil_append] <;>
    simp (disch := omega) only [ofNat_cons_lt_iff] <;> omega

theorem flatMap_utf8EncodeChar_lt {chars chars' : List Char} (h : chars < chars') :
    chars.flatMap String.utf8EncodeChar < chars'.flatMap String.utf8EncodeChar := by
  induction chars generalizing chars' with
  | nil =>
    cases chars' with
    | nil => exact absurd h (List.not_lt_nil _)
    | cons d chars' =>
      obtain ⟨byte, bytes, hbytes⟩ :=
        List.exists_cons_of_ne_nil (String.utf8EncodeChar_ne_nil : String.utf8EncodeChar d ≠ [])
      rw [List.flatMap_nil, List.flatMap_cons, hbytes]
      exact List.nil_lt_cons _ _
  | cons c chars ih =>
    cases chars' with
    | nil => exact absurd h (List.not_lt_nil _)
    | cons d chars' =>
      rw [List.flatMap_cons, List.flatMap_cons]
      -- the first characters differ, or they are equal and so are their bytes
      rcases List.cons_lt_cons_iff.mp h with hlt | ⟨rfl, hlt⟩
      · exact utf8EncodeChar_append_lt hlt _ _
      · exact List.append_left_lt (ih hlt)

/-- Strings are in the order of their bytes. -/
theorem lt_iff_utf8Bytes_lt {s t : String} : s < t ↔ utf8Bytes s < utf8Bytes t := by
  have hlt {s t : String} (h : s < t) : utf8Bytes s < utf8Bytes t := by
    rw [utf8Bytes_eq, utf8Bytes_eq]
    exact flatMap_utf8EncodeChar_lt (String.lt_iff.mp h)
  refine ⟨hlt, fun h => ?_⟩
  by_contra hnot
  by_cases hless : t < s
  · exact List.lt_asymm h (hlt hless)
  · obtain rfl : s = t := String.le_antisymm (String.not_lt.mp hless) (String.not_lt.mp hnot)
    exact List.lt_irrefl _ h

end NewsFeed
