import Telecontrol.Proofs.Binary32.Exact

/-!
# Single precision arithmetic

The operations that define single precision numbers in Lean, as operations on bit patterns: operands
are unpacked into sign, mantissa and exponent, and what comes out is rounded to a number of the format
and packed. A number of the format is not changed by rounding, however it is written; so products and
quotients with powers of two are exact where the exponent has room. Comparison is the one of the exact
values.
-/

namespace Telecontrol.Binary32

open Float.Model (Format UnpackedFloat totalExponent)
open Float.Model.UnpackedFloat

variable {negative : Bool} {x y : Binary32} {a b : Magnitude} {v w : ℚ}

/-! ### Fields -/

def signOf (negative : Bool) : Sign := if negative then .negative else .positive

/-- The number as the arithmetic takes it apart. -/
def unpacked (x : Binary32) : UnpackedFloat := unpack .binary32 x.bits.toBitVec

def ofUnpacked (u : UnpackedFloat) : Binary32 := ⟨.ofBitVec (pack .binary32 u)⟩

namespace Magnitude

/-- With the exponent that the format gives to the number. -/
structure Canonical (a : Magnitude) : Prop where
  mantissa_lt : a.mantissa < 0x1000000
  exponent_range : -149 ≤ a.exponent ∧ a.exponent ≤ 104
  hidden : a.mantissa < 0x800000 → a.exponent = -149

def unpacked (a : Magnitude) (negative : Bool) : UnpackedFloat :=
  if h : 0 < a.mantissa then .finite (signOf negative) a.mantissa a.exponent h
  else .zero (signOf negative)

lemma unpacked_of_pos (hpos : 0 < a.mantissa) :
    a.unpacked negative = .finite (signOf negative) a.mantissa a.exponent hpos := dif_pos hpos

lemma unpacked_of_zero (hzero : a.mantissa = 0) : a.unpacked negative = .zero (signOf negative) :=
  dif_neg hzero.not_gt

end Magnitude

lemma canonical_of_magnitude? (h : x.magnitude? = some a) : a.Canonical := by
  have hfraction : x.fractionField < 0x800000 := Nat.mod_lt _ (by decide)
  have hexponent : x.exponentField < 256 := Nat.mod_lt _ (by decide)
  rw [magnitude?] at h
  split at h
  · cases h
  · split at h <;> cases h <;> constructor <;> dsimp only <;> omega

lemma toNat_unpackExponent (x : Binary32) :
    (@unpackExponent .binary32 x.bits.toBitVec).toNat = x.exponentField := by
  simp [unpackExponent, exponentField, Nat.shiftRight_eq_div_pow]

lemma toNat_unpackMantissa (x : Binary32) :
    (@unpackMantissa .binary32 x.bits.toBitVec).toNat = x.fractionField := by
  simp [unpackMantissa, fractionField]

lemma ofBitVec_unpackSign (x : Binary32) :
    Sign.ofBitVec (@unpackSign .binary32 x.bits.toBitVec) = signOf x.isNegative := by
  have hlt := x.bits.toNat_lt
  have hsign : (@unpackSign .binary32 x.bits.toBitVec).toNat = x.bits.toNat / 0x80000000 := by
    simp [unpackSign, Nat.shiftRight_eq_div_pow]
    omega
  have hpositive : @unpackSign .binary32 x.bits.toBitVec = 0#1 ↔ x.isNegative = false := by
    rw [← BitVec.toNat_inj, hsign, isNegative, decide_eq_false_iff_not, BitVec.toNat_ofNat]
    omega
  rw [Sign.ofBitVec, signOf]
  simp only [hpositive]
  cases x.isNegative <;> rfl

lemma toNat_append {m n : ℕ} (high : BitVec m) (low : BitVec n) :
    (high ++ low).toNat = high.toNat * 2 ^ n + low.toNat := by
  rw [BitVec.toNat_append, ← Nat.shiftLeft_add_eq_or_of_lt low.isLt, Nat.shiftLeft_eq]

lemma unpacked_eq (h : x.magnitude? = some a) : x.unpacked = a.unpacked x.isNegative := by
  have hexponent := toNat_unpackExponent x
  have hmantissa := toNat_unpackMantissa x
  have hbias : (Format.binary32.exponentBias + (23 : ℕ) : ℤ) = 150 := rfl
  have hones : (-1#8).toNat = 255 := rfl
  have hzeros : (0#8).toNat = 0 ∧ (0#23).toNat = 0 := ⟨rfl, rfl⟩
  rw [unpacked, unpack]
  simp only [← BitVec.toNat_inj, ofBitVec_unpackSign, hexponent, hmantissa, toNat_append, hbias,
    hones, hzeros]
  rw [magnitude?] at h
  split at h
  · cases h
  · next hfinite =>
    rw [if_neg hfinite]
    split at h
    · next hsubnormal =>
      cases h
      rw [if_pos hsubnormal, hsubnormal]
      by_cases hzero : x.fractionField = 0
      · rw [dif_pos hzero, Magnitude.unpacked_of_zero hzero]
      · rw [dif_neg hzero, Magnitude.unpacked_of_pos (Nat.pos_of_ne_zero hzero)]
        rfl
    · next hnormal =>
      cases h
      rw [if_neg hnormal, Magnitude.unpacked_of_pos (Nat.add_pos_left (by decide) _)]
      rfl

namespace Magnitude

/-- The exponent field of a canonical magnitude. -/
def exponentField (a : Magnitude) : ℕ :=
  if a.mantissa < 0x800000 then 0 else (a.exponent + 150).toNat

/-- The pattern of a canonical magnitude. -/
def pattern (a : Magnitude) (negative : Bool) : Binary32 :=
  ⟨.ofNat ((if negative then 0x80000000 else 0) + a.exponentField * 0x800000 +
    a.mantissa % 0x800000)⟩

lemma Canonical.exponentField_lt (h : a.Canonical) : a.exponentField < 255 := by
  have := h.exponent_range
  rw [exponentField]
  split <;> omega

lemma Canonical.fields_pattern (h : a.Canonical) (negative : Bool) :
    (a.pattern negative).magnitude? = some a ∧ (a.pattern negative).isNegative = negative := by
  have hlt := h.mantissa_lt
  obtain ⟨hlow, hhigh⟩ := h.exponent_range
  have hfinite := h.exponentField_lt
  obtain ⟨hsign, hexponent, hfraction⟩ := fields_ofNat negative
    (show a.exponentField < 256 by omega)
    (show a.mantissa % 0x800000 < 0x800000 from Nat.mod_lt _ (by decide))
  refine ⟨?_, hsign⟩
  rw [magnitude?, pattern, hexponent, hfraction, if_neg hfinite.ne, exponentField]
  split
  · next hsubnormal =>
    rw [if_pos rfl, Nat.mod_eq_of_lt hsubnormal, ← h.hidden hsubnormal]
  · next hnormal =>
    rw [if_neg (by omega), Option.some.injEq, Magnitude.mk.injEq]
    omega

lemma Canonical.log2_eq_iff (h : a.Canonical) (hpos : 0 < a.mantissa) :
    a.mantissa.log2 = 23 ↔ ¬a.mantissa < 0x800000 := by
  rw [Nat.log2_eq_iff hpos.ne', Nat.not_lt]
  exact and_iff_left h.mantissa_lt

lemma toNat_packComponents (exponent : BitVec 8) (mantissa : BitVec 23) :
    (packComponents .binary32 (signOf negative) exponent mantissa).toNat =
      (if negative then 0x80000000 else 0) + exponent.toNat * 0x800000 + mantissa.toNat := by
  rw [packComponents, toNat_append, toNat_append, Nat.add_mul]
  cases negative <;> rfl

lemma Canonical.pack_unpacked (h : a.Canonical) : UnpackedFloat.pack .binary32 (a.unpacked negative) =
    packComponents .binary32 (signOf negative) (.ofNat 8 a.exponentField) (.ofNat 23 a.mantissa) := by
  obtain ⟨hlow, hhigh⟩ := h.exponent_range
  obtain hzero | hpos := a.mantissa.eq_zero_or_pos
  · rw [unpacked_of_zero hzero, exponentField, hzero]
    rfl
  · have hbias : (a.exponent + Format.binary32.exponentBias + (23 : ℕ)).toNat =
        (a.exponent + 150).toNat := congrArg Int.toNat (Int.add_assoc _ _ _)
    have hfinite : ¬2 ^ 8 ≤ (a.exponent + 150).toNat + 1 := by omega
    have htop : a.mantissa.log2 + 1 = Format.binary32.mantissaBits ↔ ¬a.mantissa < 0x800000 :=
      Nat.add_right_cancel_iff.trans (h.log2_eq_iff hpos)
    rw [unpacked_of_pos hpos, exponentField, UnpackedFloat.pack]
    simp only [hbias, if_neg hfinite, htop, ite_not]
    split <;> rfl

lemma Canonical.ofUnpacked (h : a.Canonical) (negative : Bool) :
    ofUnpacked (a.unpacked negative) = a.pattern negative := by
  have hfinite := h.exponentField_lt
  have hexponent : (BitVec.ofNat 8 a.exponentField).toNat = a.exponentField :=
    Nat.mod_eq_of_lt (by omega)
  have hlt : (if negative then 0x80000000 else 0) + a.exponentField * 0x800000 +
      a.mantissa % 0x800000 < 2 ^ 32 := by split <;> omega
  rw [Binary32.ofUnpacked, pattern, Binary32.mk.injEq, ← UInt32.toNat_inj, UInt32.toNat_ofBitVec,
    h.pack_unpacked, toNat_packComponents, hexponent, UInt32.toNat_ofNat', Nat.mod_eq_of_lt hlt]
  rfl

end Magnitude

lemma eq_pattern (h : x.magnitude? = some a) : x = a.pattern x.isNegative := by
  have hlt := x.bits.toNat_lt
  have hfraction : x.fractionField < 0x800000 := Nat.mod_lt _ (by decide)
  have hexponent : x.exponentField < 256 := Nat.mod_lt _ (by decide)
  have hfields : a.exponentField = x.exponentField ∧ a.mantissa % 0x800000 = x.fractionField := by
    rw [magnitude?] at h
    split at h
    · cases h
    · split at h <;> cases h <;> rw [Magnitude.exponentField]
      · rw [if_pos hfraction]
        dsimp only
        omega
      · rw [if_neg (Nat.not_lt.2 (Nat.le_add_right _ _))]
        dsimp only
        omega
  have hsum : x.bits.toNat = (if x.isNegative then 0x80000000 else 0) + x.exponentField * 0x800000 +
      x.fractionField := by
    simp only [isNegative, exponentField, fractionField, decide_eq_true_eq]
    split <;> omega
  rw [Magnitude.pattern, hfields.1, hfields.2, ← hsum, UInt32.ofNat_toNat]

/-! ### Exact rounding -/

lemma log2_mul_two_pow {m : ℕ} (hm : m ≠ 0) (k : ℕ) : (m * 2 ^ k).log2 = m.log2 + k := by
  rw [Nat.log2_eq_iff (Nat.mul_ne_zero hm (Nat.two_pow_pos k).ne'), Nat.add_right_comm, pow_add,
    pow_add]
  exact ⟨Nat.mul_le_mul_right _ (Nat.log2_self_le hm),
    Nat.mul_lt_mul_of_pos_right Nat.lt_log2_self (Nat.two_pow_pos k)⟩

lemma totalExponent_shift {m : ℕ} (hm : m ≠ 0) (e : ℤ) (k : ℕ) :
    totalExponent (m * 2 ^ k) (e - k) = totalExponent m e := by
  rw [totalExponent, totalExponent, log2_mul_two_pow hm]
  push_cast
  omega

lemma shiftRight_exact (m k : ℕ) :
    (⟨m * 2 ^ k, false, false⟩ : ExtendedMantissa) >>> k = ⟨m, false, false⟩ := by
  induction k generalizing m with
  | zero => rw [pow_zero, mul_one]; rfl
  | succ k ih =>
    change (((⟨m * 2 ^ (k + 1), false, false⟩ : ExtendedMantissa) >>> k).shiftRightOne) = _
    rw [pow_succ', ← mul_assoc, ih, ExtendedMantissa.shiftRightOne,
      Nat.mul_div_cancel _ Nat.two_pos, Nat.mul_mod_left]
    rfl

namespace Magnitude.Canonical

lemma targetExponent (h : a.Canonical) (hpos : 0 < a.mantissa) :
    Format.binary32.targetExponent (totalExponent a.mantissa a.exponent) = a.exponent := by
  have hrange := h.exponent_range
  have htop := h.log2_eq_iff hpos
  have hlt : a.mantissa.log2 < 24 := (Nat.log2_lt hpos.ne').2 h.mantissa_lt
  have hmin : Format.binary32.minExponent = -149 := rfl
  have hbits : (Format.binary32.mantissaBits : ℤ) = 24 := rfl
  have hhidden := h.hidden
  rw [Format.targetExponent, totalExponent, hmin, hbits]
  omega

lemma shiftToTargetExponent (h : a.Canonical) (hpos : 0 < a.mantissa) (k : ℕ) :
    shiftToTargetExponent .binary32 (a.mantissa * 2 ^ k) (a.exponent - k) .exact =
      (⟨a.mantissa, false, false⟩, a.exponent) := by
  rw [UnpackedFloat.shiftToTargetExponent, totalExponent_shift hpos.ne', h.targetExponent hpos,
    shiftToExponent]
  have hshift : (a.exponent - (a.exponent - k)).toNat = k := by omega
  simp only [hshift, ExtendedMantissa.ofMantissaAndAccuracy, shiftRight_exact]
  rw [sub_add_cancel]

lemma roundWithAccuracy (h : a.Canonical) (hpos : 0 < a.mantissa) (k : ℕ) (s : Sign) :
    roundWithAccuracy .binary32 s (a.mantissa * 2 ^ k) (a.exponent - k) .exact =
      .finite s a.mantissa a.exponent hpos := by
  have hagain := h.shiftToTargetExponent hpos 0
  rw [pow_zero, mul_one, Nat.cast_zero, sub_zero] at hagain
  have hrounded : (⟨a.mantissa, false, false⟩ : ExtendedMantissa).roundedMantissa = a.mantissa :=
    rfl
  rw [UnpackedFloat.roundWithAccuracy, h.shiftToTargetExponent hpos]
  simp only [hrounded, hagain, dif_neg hpos.ne']

lemma round (h : a.Canonical) (hpos : 0 < a.mantissa) {n k : ℕ} {e : ℤ}
    (hmantissa : a.mantissa = n * 2 ^ k) (hexponent : a.exponent = e - k) (s : Sign) :
    round .binary32 s n e = .finite s a.mantissa a.exponent hpos := by
  have hn : n ≠ 0 := by
    rintro rfl
    rw [hmantissa, zero_mul] at hpos
    exact hpos.false
  have hsame := h.roundWithAccuracy hpos 0 s
  rw [pow_zero, mul_one, Nat.cast_zero, sub_zero] at hsame
  rw [UnpackedFloat.round, ← totalExponent_shift hn e k, ← hmantissa, ← hexponent,
    h.targetExponent hpos, decreaseExponent]
  have hshift : (e - a.exponent).toNat = k := by omega
  simp only [hshift, Nat.shiftLeft_eq, ← hmantissa, ← hexponent, hsame]

end Magnitude.Canonical

/-! ### Operations -/

def mul (x y : Binary32) : Binary32 := ofUnpacked (UnpackedFloat.mul .binary32 x.unpacked y.unpacked)

def div (x y : Binary32) : Binary32 := ofUnpacked (UnpackedFloat.div .binary32 x.unpacked y.unpacked)

def sub (x y : Binary32) : Binary32 := ofUnpacked (UnpackedFloat.sub .binary32 x.unpacked y.unpacked)

def ofInt (n : ℤ) : Binary32 := ofUnpacked (UnpackedFloat.ofInt .binary32 n)

def le (x y : Binary32) : Bool := UnpackedFloat.le x.unpacked y.unpacked

def isFinite (x : Binary32) : Bool := x.unpacked.isFinite

lemma canonical_zero : (⟨0, -149⟩ : Magnitude).Canonical := ⟨by decide, by decide, fun _ => rfl⟩

lemma ofInt_eq_round {n : ℤ} (hn : n ≠ 0) : UnpackedFloat.ofInt .binary32 n =
    UnpackedFloat.round .binary32 (signOf (n < 0)) n.natAbs 0 := by
  rw [UnpackedFloat.ofInt, UnpackedFloat.normalize]
  split
  · next h =>
    rw [compare_lt_iff_lt] at h
    rw [signOf, if_pos (decide_eq_true h), show (-n).toNat = n.natAbs by omega]
  · next h => exact absurd (compare_eq_iff_eq.1 h) hn
  · next h =>
    rw [compare_gt_iff_gt] at h
    have hsign : ¬decide (n < 0) = true := by simpa using h.le
    rw [signOf, if_neg hsign, show n.toNat = n.natAbs by omega]

lemma ofInt_eq {n : ℤ} (hlt : n.natAbs < 0x1000000) : ofInt n = ofFraction (n < 0) n.natAbs 0 := by
  by_cases hzero : n = 0
  · subst hzero
    exact canonical_zero.ofUnpacked false
  · have hn : n.natAbs ≠ 0 := by omega
    obtain ⟨hmagnitude, hsign⟩ := magnitude?_ofFraction (n < 0) hn hlt (show -126 ≤ 0 by decide)
      (by decide)
    have hcanonical := canonical_of_magnitude? hmagnitude
    have hpos : 0 < n.natAbs * 2 ^ (23 - n.natAbs.log2) :=
      Nat.mul_pos (Nat.pos_of_ne_zero hn) (Nat.two_pow_pos _)
    rw [eq_pattern hmagnitude, hsign, ← hcanonical.ofUnpacked, ofInt, ofInt_eq_round hzero,
      hcanonical.round hpos rfl rfl, Magnitude.unpacked_of_pos hpos]

lemma Magnitude.Canonical.toRat?_pattern (h : a.Canonical) :
    (a.pattern negative).toRat? = some (signed negative a.toRat) := by
  obtain ⟨hmagnitude, hsign⟩ := h.fields_pattern negative
  rw [toRat?_eq hmagnitude, hsign]

/-- `2 ^ 15`, the number of steps from zero to one. -/
def scale : Binary32 := ofInt 32768

lemma unpacked_scale : scale.unpacked = .finite .positive 0x800000 (-8) (by decide) := by
  have hscale : scale = ofFraction false 32768 0 := ofInt_eq (by decide)
  obtain ⟨hmagnitude, hsign⟩ := magnitude?_ofFraction false (show 32768 ≠ 0 by decide)
    (by decide) (show -126 ≤ 0 by decide) (by decide)
  rw [hscale, unpacked_eq hmagnitude, hsign]
  rfl

/-- A number of the format is one still after the product with `2 ^ 15`, if it was not too large:
as far as the hidden bit is free the mantissa takes up the factor, then the exponent does. -/
lemma Magnitude.Canonical.exists_scaled (h : a.Canonical) (hpos : 0 < a.mantissa)
    (hexponent : a.exponent ≤ 89) : ∃ (b : Magnitude) (k : ℕ), b.Canonical ∧
      a.mantissa * 0x800000 = b.mantissa * 2 ^ k ∧ a.exponent + -8 = b.exponent - k := by
  obtain ⟨htop, hhidden, hbound⟩ := log2_shift_range hpos.ne' h.mantissa_lt
  obtain ⟨hlow, hhigh⟩ := h.exponent_range
  have hnormal := h.log2_eq_iff hpos
  have hsubnormal := h.hidden
  obtain ⟨j, hj⟩ : ∃ j, j = min 15 (23 - a.mantissa.log2) := ⟨_, rfl⟩
  have hgrown : a.mantissa * 2 ^ j ≤ a.mantissa * 2 ^ (23 - a.mantissa.log2) :=
    Nat.mul_le_mul_left _ (Nat.pow_le_pow_right Nat.two_pos (by omega))
  refine ⟨⟨a.mantissa * 2 ^ j, a.exponent + 15 - j⟩, 23 - j, ⟨?_, ?_, ?_⟩, ?_, ?_⟩
  · exact hgrown.trans_lt hbound
  · dsimp only
    omega
  · intro hfree
    dsimp only at hfree ⊢
    have hfull : j ≠ 23 - a.mantissa.log2 := by
      rintro hfull
      rw [hfull] at hfree
      omega
    omega
  · rw [mul_assoc, ← pow_add, Nat.add_sub_cancel' (by omega)]
    rfl
  · dsimp only
    omega

lemma signOf_mul_positive : signOf negative * .positive = signOf negative := by
  cases negative <;> rfl

lemma toRat?_mul_scale (h : x.toRat? = some v) (hsmall : |v| ≤ 1) :
    (x.mul scale).toRat? = some (v * 2 ^ 15) := by
  rw [toRat?, Option.map_eq_some_iff] at h
  obtain ⟨a, hmagnitude, rfl⟩ := h
  have ha := canonical_of_magnitude? hmagnitude
  rw [abs_signed a.toRat_nonneg] at hsmall
  rw [mul, unpacked_eq hmagnitude, unpacked_scale]
  obtain hzero | hpos := a.mantissa.eq_zero_or_pos
  · have hproduct : UnpackedFloat.mul .binary32 (a.unpacked x.isNegative)
        (.finite .positive 0x800000 (-8) (by decide)) = a.unpacked x.isNegative := by
      rw [Magnitude.unpacked_of_zero hzero, UnpackedFloat.mul, signOf_mul_positive]
    rw [hproduct, ha.ofUnpacked, ha.toRat?_pattern, Magnitude.toRat_eq_zero hzero, signed_zero,
      zero_mul]
  · have hexponent : a.exponent ≤ 89 := by
      by_contra hlarge
      have hpower : (1 : ℚ) < 2 ^ a.exponent := one_lt_zpow₀ one_lt_two (by omega)
      have hmantissa : (1 : ℚ) ≤ a.mantissa := mod_cast hpos
      rw [Magnitude.toRat] at hsmall
      nlinarith
    obtain ⟨b, k, hb, hmantissa, hplace⟩ := ha.exists_scaled hpos hexponent
    have hpos' : 0 < b.mantissa := by
      by_contra hzero
      rw [Nat.eq_zero_of_not_pos hzero] at hmantissa
      omega
    have hproduct : UnpackedFloat.mul .binary32 (a.unpacked x.isNegative)
        (.finite .positive 0x800000 (-8) (by decide)) = b.unpacked x.isNegative := by
      rw [Magnitude.unpacked_of_pos hpos, UnpackedFloat.mul, signOf_mul_positive, hmantissa, hplace,
        hb.roundWithAccuracy hpos', Magnitude.unpacked_of_pos hpos']
    have hvalue : b.toRat = a.toRat * 2 ^ 15 := by
      rw [← Magnitude.toRat_shift b.mantissa k, ← hmantissa, ← hplace, Magnitude.toRat,
        Magnitude.toRat, zpow_add₀ two_ne_zero]
      push_cast
      ring
    rw [hproduct, hb.ofUnpacked, hb.toRat?_pattern, hvalue, signed_mul]

/-- Division shifts the dividend far enough for 24 bits of quotient; by a power of two nothing is left
over. -/
lemma divCore_scale (ha : a.Canonical) (hnormal : ¬a.mantissa < 0x800000)
    (hlow : -133 ≤ a.exponent) :
    divCore .binary32 a.mantissa a.exponent 0x800000 (-8) =
      (a.mantissa * 2 ^ 1, a.exponent - 15 - (1 : ℕ), .exact) := by
  have htop := (ha.log2_eq_iff (by omega)).2 hnormal
  have htotal : totalExponent 0x800000 (-8) = 16 := rfl
  have hmin : Format.binary32.minExponent = -149 := rfl
  have hbits : (Format.binary32.mantissaBits : ℤ) = 24 := rfl
  have htarget : min (a.exponent - -8) (Format.binary32.targetExponent
      (totalExponent a.mantissa a.exponent - totalExponent 0x800000 (-8))) = a.exponent - 16 := by
    rw [Format.targetExponent, htotal, totalExponent, hmin, hbits]
    omega
  have hshift : (a.exponent - -8 - (a.exponent - 16)).toNat = 24 := by omega
  have hquotient : a.mantissa * 2 ^ 24 / 0x800000 = a.mantissa * 2 ^ 1 := by omega
  have hrest : a.mantissa * 2 ^ 24 % 0x800000 = 0 := by omega
  have hplace : a.exponent - 16 = a.exponent - 15 - (1 : ℕ) := by omega
  rw [divCore]
  simp only [htarget, hshift, Nat.shiftLeft_eq]
  rw [hquotient, hrest, hplace]
  rfl

lemma div_scale (h : x.magnitude? = some a) (hnormal : ¬a.mantissa < 0x800000)
    (hlow : -133 ≤ a.exponent) :
    x.div scale = (⟨a.mantissa, a.exponent - 15⟩ : Magnitude).pattern x.isNegative := by
  have ha := canonical_of_magnitude? h
  have hpos : 0 < a.mantissa := by omega
  have hrange := ha.exponent_range
  have hb : (⟨a.mantissa, a.exponent - 15⟩ : Magnitude).Canonical :=
    ⟨ha.mantissa_lt, by dsimp only; omega, fun h => absurd h hnormal⟩
  have hsign : signOf x.isNegative / .positive = signOf x.isNegative := by cases x.isNegative <;> rfl
  rw [div, unpacked_eq h, unpacked_scale, Magnitude.unpacked_of_pos hpos, UnpackedFloat.div,
    divCore_scale ha hnormal hlow]
  simp only [hsign]
  rw [hb.roundWithAccuracy hpos, ← hb.ofUnpacked]
  exact congrArg ofUnpacked (Magnitude.unpacked_of_pos (a := ⟨a.mantissa, a.exponent - 15⟩) hpos).symm

/-! ### Comparison -/

lemma Magnitude.Canonical.toRat_lt (ha : a.Canonical) (hb : b.Canonical)
    (h : a.exponent < b.exponent) : a.toRat < b.toRat := by
  have hnormal : 0x800000 ≤ b.mantissa := by
    have := ha.exponent_range
    have := hb.hidden
    omega
  have hmantissa : (a.mantissa : ℚ) < 2 * b.mantissa := by
    have := ha.mantissa_lt
    exact_mod_cast show a.mantissa < 2 * b.mantissa by omega
  have hpower : (2 : ℚ) ^ (a.exponent + 1) ≤ 2 ^ b.exponent := zpow_le_zpow_right₀ one_le_two h
  calc a.toRat < 2 * b.mantissa * 2 ^ a.exponent :=
        mul_lt_mul_of_pos_right hmantissa (zpow_pos two_pos _)
    _ = b.mantissa * 2 ^ (a.exponent + 1) := by rw [zpow_add_one₀ two_ne_zero]; ring
    _ ≤ b.toRat := mul_le_mul_of_nonneg_left hpower (Nat.cast_nonneg _)

lemma Magnitude.Canonical.compare_then (ha : a.Canonical) (hb : b.Canonical) :
    (compare a.exponent b.exponent).then (compare a.mantissa b.mantissa) =
      compare a.toRat b.toRat := by
  obtain hlt | heq | hgt := lt_trichotomy a.exponent b.exponent
  · rw [compare_lt_iff_lt.2 hlt, compare_lt_iff_lt.2 (ha.toRat_lt hb hlt)]
    rfl
  · have hmono : StrictMono fun m : ℕ => (m : ℚ) * 2 ^ b.exponent := fun m n h =>
      mul_lt_mul_of_pos_right (Nat.cast_lt.2 h) (zpow_pos two_pos _)
    rw [compare_eq_iff_eq.2 heq, Ordering.then, Magnitude.toRat, Magnitude.toRat, heq,
      ← cmp_eq_compare, ← cmp_eq_compare]
    exact (hmono.cmp_map_eq _ _).symm
  · rw [compare_gt_iff_gt.2 hgt, compare_gt_iff_gt.2 (hb.toRat_lt ha hgt)]
    rfl

lemma compare_unpacked {na nb : Bool} (ha : a.Canonical) (hb : b.Canonical) :
    (a.unpacked na).compare (b.unpacked nb) =
      some (compare (signed na a.toRat) (signed nb b.toRat)) := by
  have hcompare := ha.compare_then hb
  have hswap : (compare a.toRat b.toRat).swap = compare (-a.toRat) (-b.toRat) := by
    have hanti : StrictAnti fun q : ℚ => -q := fun _ _ => neg_lt_neg
    rw [← cmp_eq_compare, ← cmp_eq_compare, cmp_swap]
    exact (hanti.cmp_map_eq _ _).symm
  have hzero {c : Magnitude} (h : ¬0 < c.mantissa) (n : Bool) : signed n c.toRat = 0 := by
    rw [Magnitude.toRat_eq_zero (Nat.eq_zero_of_not_pos h), signed_zero]
  rw [Magnitude.unpacked, Magnitude.unpacked]
  split <;> split
  · next hpos hpos' =>
    have hv := Magnitude.toRat_pos hpos
    have hw := Magnitude.toRat_pos hpos'
    cases na <;> cases nb
    · exact congrArg some hcompare
    · refine congrArg some (compare_gt_iff_gt.2 ?_).symm
      exact (neg_lt_zero.2 hw).trans hv
    · refine congrArg some (compare_lt_iff_lt.2 ?_).symm
      exact (neg_lt_zero.2 hv).trans hw
    · exact congrArg some ((congrArg Ordering.swap hcompare).trans hswap)
  · next hpos hzero' =>
    rw [hzero hzero' nb]
    have hv := Magnitude.toRat_pos hpos
    cases na
    · exact congrArg some (compare_gt_iff_gt.2 hv).symm
    · exact congrArg some (compare_lt_iff_lt.2 (neg_lt_zero.2 hv)).symm
  · next hzero' hpos =>
    rw [hzero hzero' na]
    have hw := Magnitude.toRat_pos hpos
    cases nb
    · exact congrArg some (compare_lt_iff_lt.2 hw).symm
    · exact congrArg some (compare_gt_iff_gt.2 (neg_lt_zero.2 hw)).symm
  · next hza hzb =>
    rw [hzero hza na, hzero hzb nb]
    exact congrArg some (compare_eq_iff_eq.2 rfl).symm

lemma le_iff (hx : x.toRat? = some v) (hy : y.toRat? = some w) : x.le y ↔ v ≤ w := by
  rw [toRat?, Option.map_eq_some_iff] at hx hy
  obtain ⟨a, ha, rfl⟩ := hx
  obtain ⟨b, hb, rfl⟩ := hy
  rw [le, UnpackedFloat.le, unpacked_eq ha, unpacked_eq hb,
    compare_unpacked (canonical_of_magnitude? ha) (canonical_of_magnitude? hb), Option.any_some,
    Ordering.isLE_iff_ne_gt, compare_gt_iff_gt, not_lt]

lemma unpacked_of_exponentField (h : x.exponentField = 255) : x.unpacked.isFinite = false := by
  have hexponent : @unpackExponent .binary32 x.bits.toBitVec = -1#8 :=
    BitVec.toNat_inj.1 ((toNat_unpackExponent x).trans h)
  rw [unpacked, unpack]
  simp only [hexponent, if_true]
  split <;> rfl

lemma isFinite_iff : x.isFinite ↔ ∃ v, x.toRat? = some v := by
  cases h : x.toRat? with
  | none => simp [isFinite, unpacked_of_exponentField (toRat?_eq_none_iff.1 h)]
  | some v =>
    rw [toRat?, Option.map_eq_some_iff] at h
    obtain ⟨a, ha, rfl⟩ := h
    refine iff_of_true ?_ ⟨_, rfl⟩
    rw [isFinite, unpacked_eq ha, Magnitude.unpacked]
    split <;> rfl

end Telecontrol.Binary32
