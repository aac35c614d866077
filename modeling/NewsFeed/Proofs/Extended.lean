/-
Rounding to binary64 over the real numbers, part 2: what a packed float stands for.

A float is looked at through its three fields.  `extended` gives the extended real number that an
unpacked float stands for, `overflow` cuts a rounded real off at the greatest float, and `Canonical`
says which unpacked floats are written with the mantissa and exponent that packing expects.

* `extended_unpack_pack` — packing a canonical float loses nothing but what lies beyond the greatest
  float;
* `canonical_unpack` — every unpacked word is canonical;
* `exists_compare` — canonical floats are ordered as the numbers they stand for.
-/
import Mathlib
import NewsFeed.Proofs.Nearest

namespace NewsFeed.Binary64

open Float.Model (Format UnpackedFloat)
open Float.Model.UnpackedFloat (Sign packComponents packedInfinity unpack pack unpackSign
  unpackExponent unpackMantissa unpackSign_packComponents unpackExponent_packComponents
  unpackMantissa_packComponents)

/-! ### Fields -/

/-- The unpacked float of a sign, an exponent field and a mantissa field. -/
def ofFields (sign : Sign) (exponent mantissa : ℕ) : UnpackedFloat :=
  if exponent = 2047 then
    if mantissa = 0 then .infinity sign else .notANumber
  else if exponent = 0 then
    if h : 0 < mantissa then .finite sign mantissa (-1074) h else .zero sign
  else .finite sign (2 ^ 52 + mantissa) (exponent - 1075) (by positivity)

theorem toNat_one_append (mantissa : BitVec 52) :
    (1#1 ++ mantissa).toNat = 2 ^ 52 + mantissa.toNat := by
  rw [BitVec.toNat_append, ← Nat.shiftLeft_add_eq_or_of_lt mantissa.isLt]
  rfl

private theorem finite_congr {sign : Sign} {mantissa mantissa' : ℕ} {exponent exponent' : ℤ}
    {h : 0 < mantissa} {h' : 0 < mantissa'} (hm : mantissa = mantissa')
    (he : exponent = exponent') :
    UnpackedFloat.finite sign mantissa exponent h = .finite sign mantissa' exponent' h' := by
  subst hm he
  rfl

/-- Unpacking reads the fields off a word. -/
theorem unpack_eq_ofFields (b : BitVec Format.binary64.numBits) :
    unpack Format.binary64 b =
      ofFields (Sign.ofBitVec (unpackSign b)) (unpackExponent b).toNat
        (unpackMantissa b).toNat := by
  have hbias : Format.binary64.exponentBias = 1023 := rfl
  -- the fields are compared as bit vectors there and as numbers here
  have hones : (unpackExponent b = -1#_) ↔ (unpackExponent b).toNat = 2047 := by
    rw [← BitVec.toNat_inj]
    rfl
  have hzero : (unpackExponent b = 0#_) ↔ (unpackExponent b).toNat = 0 := by
    rw [← BitVec.toNat_inj]
    rfl
  have hmantissa : (unpackMantissa b = 0#_) ↔ (unpackMantissa b).toNat = 0 := by
    rw [← BitVec.toNat_inj]
    rfl
  unfold unpack ofFields
  simp only [hones, hzero, hmantissa, hbias]
  -- infinities and NaN, then the subnormal numbers and 0, then the normal ones
  by_cases h2047 : (unpackExponent b).toNat = 2047
  · rw [if_pos h2047, if_pos h2047]
  rw [if_neg h2047, if_neg h2047]
  by_cases h0 : (unpackExponent b).toNat = 0
  · rw [if_pos h0, if_pos h0]
    by_cases hm : (unpackMantissa b).toNat = 0
    · rw [dif_pos hm, dif_neg (by omega)]
    · rw [dif_neg hm, dif_pos (by omega)]
      exact finite_congr rfl (by omega)
  · rw [if_neg h0, if_neg h0]
    exact finite_congr (toNat_one_append _) rfl

theorem toNat_unpackMantissa (b : BitVec Format.binary64.numBits) :
    (unpackMantissa b).toNat = b.toNat % 2 ^ 52 := by
  simp [unpackMantissa]

theorem toNat_unpackExponent (b : BitVec Format.binary64.numBits) :
    (unpackExponent b).toNat = b.toNat / 2 ^ 52 % 2 ^ 11 := by
  simp [unpackExponent, Nat.shiftRight_eq_div_pow]

theorem toNat_unpackSign (b : BitVec Format.binary64.numBits) :
    (unpackSign b).toNat = b.toNat / 2 ^ 63 % 2 := by
  simp [unpackSign, Nat.shiftRight_eq_div_pow]

theorem unpack_packComponents (sign : Sign) (exponent : BitVec 11) (mantissa : BitVec 52) :
    unpack Format.binary64 (packComponents Format.binary64 sign exponent mantissa) =
      ofFields sign exponent.toNat mantissa.toNat := by
  rw [unpack_eq_ofFields, unpackSign_packComponents, Sign.ofBitVec_toBitVec,
    unpackExponent_packComponents, unpackMantissa_packComponents]

/-! ### Canonical floats -/

/-- Whether a finite float is written with the exponent of its spacing: with 53 binary digits, or
with fewer at the least exponent. -/
def Canonical : UnpackedFloat → Prop
  | .finite _ mantissa exponent _ =>
    mantissa < 2 ^ 53 ∧ -1074 ≤ exponent ∧ (2 ^ 52 ≤ mantissa ∨ exponent = -1074)
  | _ => True

theorem canonical_ofFields (sign : Sign) {exponent mantissa : ℕ} (hm : mantissa < 2 ^ 52) :
    Canonical (ofFields sign exponent mantissa) := by
  unfold ofFields
  split_ifs
  · trivial
  · trivial
  · exact ⟨by omega, le_rfl, .inr rfl⟩
  · trivial
  · exact ⟨by omega, by omega, .inl (by omega)⟩

theorem canonical_unpack (b : BitVec Format.binary64.numBits) :
    Canonical (unpack Format.binary64 b) := by
  rw [unpack_eq_ofFields]
  exact canonical_ofFields _ (unpackMantissa b).isLt

/-- A word has no room for an exponent of more than 971. -/
theorem exponent_le_of_unpack {b : BitVec Format.binary64.numBits} {sign : Sign} {mantissa : ℕ}
    {exponent : ℤ} {h : 0 < mantissa}
    (hb : unpack Format.binary64 b = .finite sign mantissa exponent h) : exponent ≤ 971 := by
  have hlt : (unpackExponent b).toNat < 2 ^ 11 := (unpackExponent b).isLt
  rw [unpack_eq_ofFields, ofFields] at hb
  split_ifs at hb <;> injection hb <;> omega

theorem unpack_pack_of_gt {sign : Sign} {mantissa : ℕ} {exponent : ℤ} {h : 0 < mantissa}
    (hgt : 971 < exponent) :
    unpack Format.binary64 (pack Format.binary64 (.finite sign mantissa exponent h)) =
      .infinity sign := by
  have hbias : Format.binary64.exponentBias = 1023 := rfl
  unfold pack
  simp only [hbias]
  rw [if_pos (by omega), packedInfinity, unpack_packComponents]
  rfl

theorem unpack_pack_of_le {sign : Sign} {mantissa : ℕ} {exponent : ℤ} {h : 0 < mantissa}
    (hc : Canonical (.finite sign mantissa exponent h)) (hle : exponent ≤ 971) :
    unpack Format.binary64 (pack Format.binary64 (.finite sign mantissa exponent h)) =
      .finite sign mantissa exponent h := by
  obtain ⟨hlt, hmin, hnormal⟩ := hc
  have hbias : Format.binary64.exponentBias = 1023 := rfl
  have hbits : Format.binary64.mantissaBits = 53 := rfl
  unfold pack
  simp only [hbias, hbits]
  rw [if_neg (by omega)]
  by_cases hm : 2 ^ 52 ≤ mantissa
  · -- 53 digits, of which the first is not stored
    have hlog : mantissa.log2 = 52 := (Nat.log2_eq_iff (by omega)).mpr ⟨hm, hlt⟩
    have hexponent : (BitVec.ofNat 11 (exponent + 1075).toNat).toNat = (exponent + 1075).toNat := by
      rw [BitVec.toNat_ofNat, Nat.mod_eq_of_lt (by omega)]
    have hmantissa : (BitVec.ofNat 52 mantissa).toNat = mantissa - 2 ^ 52 := by
      rw [BitVec.toNat_ofNat]
      omega
    rw [if_pos (by rw [hlog]), unpack_packComponents]
    have hbiased : (exponent + (1023 : ℕ) + (52 : ℕ)).toNat = (exponent + 1075).toNat := by omega
    rw [show (exponent + ((1023 : ℕ) : ℤ) + (Format.binary64.mantissaBitsWithoutImplicit : ℕ)).toNat
      = (exponent + 1075).toNat from hbiased, hexponent, hmantissa, ofFields, if_neg (by omega),
      if_neg (by omega)]
    exact finite_congr (by omega) (by omega)
  · -- fewer digits, stored with the least exponent field
    have hlog : mantissa.log2 < 52 := (Nat.log2_lt (by omega)).mpr (by omega)
    have hmantissa : (BitVec.ofNat 52 mantissa).toNat = mantissa := by
      rw [BitVec.toNat_ofNat, Nat.mod_eq_of_lt (by omega)]
    rw [if_neg (by omega), unpack_packComponents, hmantissa, ofFields, if_neg (by decide),
      if_pos (by rfl), dif_pos h]
    exact finite_congr rfl (by omega)

/-! ### The numbers that floats stand for -/

/-- The number that an unpacked float stands for.  NaN stands for none; its value here is 0, and
every statement about it is kept apart. -/
noncomputable def extended : UnpackedFloat → EReal
  | .notANumber => 0
  | .infinity .positive => ⊤
  | .infinity .negative => ⊥
  | .zero _ => 0
  | .finite sign mantissa exponent _ => (scaled (sign.apply mantissa) exponent : EReal)

/-- The numbers of a NaN and of the zeros are the only ones that are 0. -/
theorem eq_of_extended_eq_zero {u : UnpackedFloat} (h : extended u = 0) :
    u = .notANumber ∨ ∃ sign, u = .zero sign := by
  cases u with
  | notANumber => exact .inl rfl
  | infinity sign => cases sign <;> simp [extended] at h
  | zero sign => exact .inr ⟨sign, rfl⟩
  | finite sign mantissa exponent hm =>
    have hscaled : scaled (sign.apply mantissa) exponent = 0 := EReal.coe_eq_zero.mp h
    have hne : (mantissa : ℝ) ≠ 0 := by exact_mod_cast hm.ne'
    cases sign <;> simp [Sign.apply, scaled, hne, zpow_ne_zero] at hscaled

/-- Replaces what lies beyond the greatest float by an infinity. -/
noncomputable def overflow (x : EReal) : EReal :=
  if (limit : EReal) ≤ x then ⊤ else if x ≤ ((-limit : ℝ) : EReal) then ⊥ else x

theorem limit_pos : 0 < limit :=
  zpow_pos (by norm_num) _

theorem overflow_mono {x y : EReal} (h : x ≤ y) : overflow x ≤ overflow y := by
  unfold overflow
  by_cases hx : (limit : EReal) ≤ x
  · rw [if_pos hx, if_pos (hx.trans h)]
  rw [if_neg hx]
  by_cases hx' : x ≤ ((-limit : ℝ) : EReal)
  · rw [if_pos hx']
    exact bot_le
  rw [if_neg hx']
  by_cases hy : (limit : EReal) ≤ y
  · rw [if_pos hy]
    exact le_top
  rw [if_neg hy, if_neg fun hy' => hx' (h.trans hy')]
  exact h

@[simp] theorem overflow_top : overflow ⊤ = ⊤ := by
  simp [overflow]

@[simp] theorem overflow_bot : overflow ⊥ = ⊥ := by
  simp [overflow]

theorem overflow_of_abs_lt {x : ℝ} (h : |x| < limit) : overflow (x : EReal) = x := by
  obtain ⟨hlow, hhigh⟩ := abs_lt.mp h
  unfold overflow
  rw [if_neg (by rw [EReal.coe_le_coe_iff]; linarith),
    if_neg (by rw [EReal.coe_le_coe_iff]; linarith)]

@[simp] theorem overflow_zero : overflow 0 = 0 := by
  have h := overflow_of_abs_lt (x := 0) (by simpa using limit_pos)
  simpa using h

theorem overflow_of_limit_le {x : ℝ} (h : limit ≤ x) : overflow (x : EReal) = ⊤ := by
  rw [overflow, if_pos (EReal.coe_le_coe_iff.mpr h)]

theorem overflow_of_le_neg_limit {x : ℝ} (h : x ≤ -limit) : overflow (x : EReal) = ⊥ := by
  have hpos := limit_pos
  rw [overflow, if_neg (by rw [EReal.coe_le_coe_iff]; linarith),
    if_pos (EReal.coe_le_coe_iff.mpr h)]

theorem abs_apply (sign : Sign) (mantissa : ℕ) : |(sign.apply mantissa : ℝ)| = mantissa := by
  cases sign <;> simp [Sign.apply]

/-- A canonical float is out of range exactly if its exponent is more than 971. -/
theorem limit_le_iff {sign : Sign} {mantissa : ℕ} {exponent : ℤ} {h : 0 < mantissa}
    (hc : Canonical (.finite sign mantissa exponent h)) :
    limit ≤ scaled mantissa exponent ↔ 971 < exponent := by
  obtain ⟨hlt, -, hnormal⟩ := hc
  constructor
  · intro hle
    -- with an exponent of at most 971 even the greatest mantissa stays below `2^1024`
    by_contra hexp
    have hm : (mantissa : ℝ) < 2 ^ (53 : ℤ) := by exact_mod_cast hlt
    have hpow : (2 : ℝ) ^ exponent ≤ 2 ^ (971 : ℤ) :=
      zpow_le_zpow_right₀ (by norm_num) (by omega)
    have hprod : (mantissa : ℝ) * 2 ^ exponent < 2 ^ (53 : ℤ) * 2 ^ (971 : ℤ) :=
      mul_lt_mul_of_lt_of_le_of_nonneg_of_pos hm hpow (by positivity) (by positivity)
    rw [← zpow_add₀ (by norm_num)] at hprod
    exact absurd hle (not_le.mpr hprod)
  · intro hexp
    -- above it the mantissa is normal, so its leading one alone makes `2^1024`
    have hm : (2 : ℝ) ^ (52 : ℤ) ≤ mantissa := by
      exact_mod_cast hnormal.resolve_right (by omega)
    have hpow : (2 : ℝ) ^ (972 : ℤ) ≤ 2 ^ exponent :=
      zpow_le_zpow_right₀ (by norm_num) (by omega)
    have hprod : (2 : ℝ) ^ (52 : ℤ) * 2 ^ (972 : ℤ) ≤ mantissa * 2 ^ exponent :=
      mul_le_mul hm hpow (by positivity) (by positivity)
    rw [← zpow_add₀ (by norm_num)] at hprod
    exact hprod

/-- Packing a canonical float and unpacking it again only cuts off what is out of range. -/
theorem extended_unpack_pack {u : UnpackedFloat} (hc : Canonical u) :
    extended (unpack Format.binary64 (pack Format.binary64 u)) = overflow (extended u) := by
  cases u with
  | notANumber => exact overflow_zero.symm
  | infinity sign =>
    cases sign with
    | negative => exact overflow_bot.symm
    | positive => exact overflow_top.symm
  | zero sign => cases sign <;> exact overflow_zero.symm
  | finite sign mantissa exponent h =>
    rcases le_or_gt exponent 971 with hle | hgt
    · -- in range: what is read back is the number itself
      rw [unpack_pack_of_le hc hle, extended, overflow_of_abs_lt]
      rw [abs_scaled, abs_apply]
      exact not_le.mp fun hover => absurd ((limit_le_iff hc).mp hover) (by omega)
    · -- out of range: an infinity of the same sign is read back
      have hover := (limit_le_iff hc).mpr hgt
      rw [unpack_pack_of_gt hgt]
      cases sign with
      | positive => exact (overflow_of_limit_le (by simpa [Sign.apply] using hover)).symm
      | negative => exact (overflow_of_le_neg_limit (by simpa [Sign.apply] using hover)).symm

/-- Packing makes no NaN. -/
theorem isNaN_unpack_pack {u : UnpackedFloat} (hc : Canonical u) (hu : u.isNaN = false) :
    (unpack Format.binary64 (pack Format.binary64 u)).isNaN = false := by
  cases u with
  | notANumber => cases hu
  | infinity sign => cases sign <;> rfl
  | zero sign => cases sign <;> rfl
  | finite sign mantissa exponent h =>
    rcases le_or_gt exponent 971 with hle | hgt
    · rw [unpack_pack_of_le hc hle]
      rfl
    · rw [unpack_pack_of_gt hgt]
      rfl

/-! ### Comparing -/

/-- Of two canonical mantissas with different exponents, the one with the smaller exponent stands
for the smaller number. -/
theorem scaled_lt_of_exponent_lt {m m' : ℕ} {e e' : ℤ} (hm : m < 2 ^ 53) (he : -1074 ≤ e)
    (hm' : 2 ^ 52 ≤ m' ∨ e' = -1074) (h : e < e') : scaled m e < scaled m' e' := by
  have hlow : (2 : ℝ) ^ (52 : ℤ) ≤ m' := by exact_mod_cast hm'.resolve_right (by omega)
  have hhigh : (m : ℝ) < 2 ^ (53 : ℤ) := by exact_mod_cast hm
  calc scaled m e < 2 ^ (53 : ℤ) * 2 ^ e := scaled_lt_scaled hhigh e
    _ = 2 ^ (52 : ℤ) * 2 ^ (e + 1) := by
        rw [← zpow_add₀ (by norm_num), ← zpow_add₀ (by norm_num)]
        congr 1
        omega
    _ ≤ scaled m' e' :=
        mul_le_mul hlow (zpow_le_zpow_right₀ (by norm_num) (by omega)) (by positivity)
          (by positivity)

/-- Canonical magnitudes are compared by exponent first and mantissa second. -/
theorem compares_magnitude {m m' : ℕ} {e e' : ℤ} (hm : m < 2 ^ 53) (hm' : m' < 2 ^ 53)
    (he : -1074 ≤ e) (he' : -1074 ≤ e') (hn : 2 ^ 52 ≤ m ∨ e = -1074)
    (hn' : 2 ^ 52 ≤ m' ∨ e' = -1074) :
    ((compare e e').then (compare m m')).Compares (scaled m e) (scaled m' e') := by
  -- canonical mantissas make the exponent the leading digit of the comparison
  rcases lt_trichotomy e e' with h | rfl | h
  · rw [compare_lt_iff_lt.mpr h]
    exact scaled_lt_of_exponent_lt hm he hn' h
  · rw [compare_eq_iff_eq.mpr rfl]
    rcases lt_trichotomy m m' with h | rfl | h
    · rw [compare_lt_iff_lt.mpr h]
      exact scaled_lt_scaled (by exact_mod_cast h) e
    · rw [compare_eq_iff_eq.mpr rfl]
      exact rfl
    · rw [compare_gt_iff_gt.mpr h]
      exact scaled_lt_scaled (by exact_mod_cast h) e
  · rw [compare_gt_iff_gt.mpr h]
    exact scaled_lt_of_exponent_lt hm' he' hn h

theorem compares_coe {o : Ordering} {x y : ℝ} (h : o.Compares x y) :
    o.Compares (x : EReal) y := by
  cases o with
  | lt => exact EReal.coe_lt_coe_iff.mpr h
  | eq => exact congrArg _ h
  | gt => exact EReal.coe_lt_coe_iff.mpr h

theorem compares_neg {o : Ordering} {x y : ℝ} (h : o.Compares x y) :
    o.swap.Compares (-x) (-y) := by
  cases o with
  | lt => exact neg_lt_neg h
  | eq => exact congrArg _ h
  | gt => exact neg_lt_neg h

theorem extended_positive (mantissa : ℕ) (exponent : ℤ) (h : 0 < mantissa) :
    0 < extended (.finite .positive mantissa exponent h) := by
  refine EReal.coe_pos.mpr (scaled_pos ?_ exponent)
  exact_mod_cast (by simpa [Sign.apply] using h : 0 < Sign.positive.apply mantissa)

theorem extended_negative (mantissa : ℕ) (exponent : ℤ) (h : 0 < mantissa) :
    extended (.finite .negative mantissa exponent h) < 0 := by
  refine EReal.coe_neg'.mpr (mul_neg_of_neg_of_pos ?_ (zpow_pos (by norm_num) _))
  exact_mod_cast (by simpa [Sign.apply] using h : Sign.negative.apply mantissa < 0)

/-- Canonical floats are compared as the numbers they stand for. -/
theorem exists_compare {u v : UnpackedFloat} (hu : Canonical u) (hv : Canonical v)
    (hnu : u.isNaN = false) (hnv : v.isNaN = false) :
    ∃ o, u.compare v = some o ∧ o.Compares (extended u) (extended v) := by
  -- one case for each pair of kinds, as the comparison takes them
  cases u with
  | notANumber => cases hnu
  | infinity s =>
    cases v with
    | notANumber => cases hnv
    | infinity s' =>
      cases s with
      | negative =>
        cases s' with
        | negative => exact ⟨.eq, rfl, rfl⟩
        | positive => exact ⟨.lt, rfl, bot_lt_top⟩
      | positive =>
        cases s' with
        | negative => exact ⟨.gt, rfl, bot_lt_top⟩
        | positive => exact ⟨.eq, rfl, rfl⟩
    | zero s' =>
      cases s with
      | negative => exact ⟨.lt, rfl, EReal.bot_lt_zero⟩
      | positive => exact ⟨.gt, rfl, EReal.zero_lt_top⟩
    | finite s' m' e' h' =>
      cases s with
      | negative => exact ⟨.lt, rfl, EReal.bot_lt_coe _⟩
      | positive => exact ⟨.gt, rfl, EReal.coe_lt_top _⟩
  | zero s =>
    cases v with
    | notANumber => cases hnv
    | infinity s' =>
      cases s' with
      | negative => exact ⟨.gt, rfl, EReal.bot_lt_zero⟩
      | positive => exact ⟨.lt, rfl, EReal.zero_lt_top⟩
    | zero s' => exact ⟨.eq, rfl, rfl⟩
    | finite s' m' e' h' =>
      cases s' with
      | negative => exact ⟨.gt, rfl, extended_negative m' e' h'⟩
      | positive => exact ⟨.lt, rfl, extended_positive m' e' h'⟩
  | finite s m e h =>
    cases v with
    | notANumber => cases hnv
    | infinity s' =>
      cases s' with
      | negative => exact ⟨.gt, by cases s <;> rfl, EReal.bot_lt_coe _⟩
      | positive => exact ⟨.lt, by cases s <;> rfl, EReal.coe_lt_top _⟩
    | zero s' =>
      cases s with
      | negative => exact ⟨.lt, rfl, extended_negative m e h⟩
      | positive => exact ⟨.gt, rfl, extended_positive m e h⟩
    | finite s' m' e' h' =>
      -- both finite: the signs decide, and magnitudes where they are equal
      have hmag := compares_magnitude hu.1 hv.1 hu.2.1 hv.2.1 hu.2.2 hv.2.2
      cases s with
      | negative =>
        cases s' with
        | negative =>
          -- two negative numbers compare the other way round
          refine ⟨_, rfl, compares_coe ?_⟩
          simpa [Sign.apply] using compares_neg hmag
        | positive =>
          exact ⟨.lt, rfl, (extended_negative m e h).trans (extended_positive m' e' h')⟩
      | positive =>
        cases s' with
        | negative =>
          exact ⟨.gt, rfl, (extended_negative m' e' h').trans (extended_positive m e h)⟩
        | positive =>
          refine ⟨_, rfl, compares_coe ?_⟩
          simpa [Sign.apply] using hmag

end NewsFeed.Binary64
