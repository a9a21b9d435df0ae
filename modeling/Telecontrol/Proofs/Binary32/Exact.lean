import Mathlib
import Telecontrol.Binary32.Basic

/-!
# Single precision numbers as rationals

The exact value of a finite bit pattern is a rational. Integers are taken to be nearest to a rational
with halves away from zero (`IsNearest`); there is one such integer, and it grows with the rational.
The arithmetic on numerators and denominators comes to the same.
-/

namespace Telecontrol

/-! ### Nearest integers -/

/-- The integer nearest to a rational, of two equally near ones the one away from zero. -/
structure IsNearest (q : ℚ) (n : ℤ) : Prop where
  nearest : ∀ m : ℤ, |q - n| ≤ |q - m|
  away : ∀ m : ℤ, |q - m| = |q - n| → |m| ≤ |n|

namespace IsNearest

variable {q q' : ℚ} {n n' : ℤ}

lemma intCast (n : ℤ) : IsNearest n n where
  nearest m := by rw [sub_self, abs_zero]; exact abs_nonneg _
  away m h := by
    rw [sub_self, abs_zero, abs_eq_zero, sub_eq_zero, Int.cast_inj] at h
    rw [h]

lemma neg (h : IsNearest q n) : IsNearest (-q) (-n) := by
  have hdistance (m : ℤ) : |-q - m| = |q - (-m : ℤ)| := by
    rw [← abs_neg, neg_sub, sub_neg_eq_add, Int.cast_neg, sub_neg_eq_add, add_comm]
  constructor
  · intro m
    rw [hdistance, hdistance, neg_neg]
    exact h.nearest _
  · intro m hm
    rw [hdistance, hdistance, neg_neg] at hm
    rw [abs_neg, ← abs_neg m]
    exact h.away _ hm

lemma of_mem_Ico (hq : 0 ≤ q) (hlow : n - 1 / 2 ≤ q) (hhigh : q < n + 1 / 2) : IsNearest q n := by
  have hnear : |q - n| ≤ 1 / 2 := abs_le.2 ⟨by linarith, by linarith⟩
  have hn : 0 ≤ n := by
    have : (-1 : ℚ) < n := by linarith
    exact Int.lt_iff_add_one_le.1 (mod_cast this)
  have hbelow {m : ℤ} (h : m < n) : (m : ℚ) ≤ n - 1 := by exact_mod_cast Int.le_sub_one_of_lt h
  have habove {m : ℤ} (h : n < m) : (n : ℚ) + 1 ≤ m := by exact_mod_cast h
  constructor
  · intro m
    obtain hm | rfl | hm := lt_trichotomy m n
    · exact hnear.trans (le_abs.2 (.inl (by linarith [hbelow hm])))
    · rfl
    · exact hnear.trans (le_abs.2 (.inr (by linarith [habove hm])))
  · intro m h
    -- A tie leaves only the next integer below, which is closer to zero.
    have hle : m ≤ n := by
      by_contra hm
      have hfar : q - m < -(1 / 2) := by linarith [habove (not_le.1 hm)]
      rw [abs_of_neg (by linarith)] at h
      linarith
    have hge : -n ≤ m := by
      by_contra hm
      have hopposite : (m : ℚ) ≤ -n - 1 := by
        exact_mod_cast Int.le_sub_one_of_lt (not_le.1 hm)
      have hcast : (0 : ℚ) ≤ n := mod_cast hn
      rw [abs_of_nonneg (by linarith)] at h
      linarith
    rw [abs_of_nonneg hn]
    exact abs_le.2 ⟨hge, hle⟩

lemma unique (h : IsNearest q n) (h' : IsNearest q n') : n = n' := by
  have hdistance : |q - n| = |q - n'| := le_antisymm (h.nearest n') (h'.nearest n)
  have habs : |n| = |n'| := le_antisymm (h'.away n hdistance) (h.away n' hdistance.symm)
  obtain heq | hopposite := abs_eq_abs.1 habs
  · exact heq
  · -- Two opposite integers are equally far from zero only, and nearest to zero is zero.
    subst hopposite
    have hzero := h'.nearest 0
    obtain hsame | hsum := abs_eq_abs.1 hdistance
    · exact_mod_cast sub_right_injective hsame
    · have hq : q = 0 := by push_cast at hsum; linarith
      rw [hq, zero_sub, zero_sub, abs_neg, abs_neg, Int.cast_zero, abs_zero, abs_nonpos_iff,
        Int.cast_eq_zero] at hzero
      rw [hzero, neg_zero]

lemma mono (h : IsNearest q n) (h' : IsNearest q' n') (hle : q ≤ q') : n ≤ n' := by
  by_contra hlt
  have hcast : (n' : ℚ) < n := mod_cast not_le.1 hlt
  -- `q` lies in the upper half of the way from `n'` to `n`, and `q'` in the lower one.
  have hupper : (n + n' : ℚ) / 2 ≤ q := by
    have := sq_le_sq.2 (h.nearest n')
    nlinarith
  have hlower : q' ≤ (n + n' : ℚ) / 2 := by
    have := sq_le_sq.2 (h'.nearest n)
    nlinarith
  have heq : q = q' := by linarith
  exact hlt (h.unique (heq ▸ h')).le

lemma bounds {low high : ℤ} (h : IsNearest q n) (hlow : low ≤ q) (hhigh : q ≤ high) :
    low ≤ n ∧ n ≤ high :=
  ⟨(intCast low).mono h hlow, h.mono (intCast high) hhigh⟩

lemma abs_sub_le (h : IsNearest q n) : |q - n| ≤ 1 / 2 := by
  obtain hfloor | hceil := le_total (q - ⌊q⌋) (1 / 2)
  · refine (h.nearest ⌊q⌋).trans ?_
    rwa [abs_of_nonneg (sub_nonneg.2 (Int.floor_le q))]
  · have hlt := Int.lt_floor_add_one q
    refine (h.nearest (⌊q⌋ + 1)).trans ?_
    rw [abs_le]
    push_cast
    constructor <;> linarith

end IsNearest

namespace Binary32

lemma isNearest_roundHalfUp (n : ℕ) {d : ℕ} (hd : 0 < d) :
    IsNearest (n / d : ℚ) (roundHalfUp n d) := by
  have hcast : (0 : ℚ) < d := mod_cast hd
  have hmod := Nat.div_add_mod (2 * n + d) (2 * d)
  have hlt := Nat.mod_lt (2 * n + d) (show 0 < 2 * d by omega)
  rw [← roundHalfUp] at hmod
  have hsum : 2 * d * (roundHalfUp n d : ℚ) + ((2 * n + d) % (2 * d) : ℕ) = 2 * n + d :=
    mod_cast hmod
  have hrest : (((2 * n + d) % (2 * d) : ℕ) : ℚ) < 2 * d := mod_cast hlt
  have hrest' : (0 : ℚ) ≤ ((2 * n + d) % (2 * d) : ℕ) := Nat.cast_nonneg _
  refine .of_mem_Ico (by positivity) ?_ ?_
  · rw [le_div_iff₀ hcast]
    push_cast
    linarith
  · rw [div_lt_iff₀ hcast]
    push_cast
    linarith

/-! ### Exact values -/

namespace Magnitude

def toRat (a : Magnitude) : ℚ := a.mantissa * 2 ^ a.exponent

variable {a : Magnitude}

lemma toRat_nonneg (a : Magnitude) : 0 ≤ a.toRat :=
  mul_nonneg (Nat.cast_nonneg _) (zpow_nonneg zero_le_two _)

lemma toRat_pos (hpos : 0 < a.mantissa) : 0 < a.toRat :=
  mul_pos (Nat.cast_pos.2 hpos) (zpow_pos two_pos _)

lemma toRat_eq_zero (hzero : a.mantissa = 0) : a.toRat = 0 := by
  rw [toRat, hzero, Nat.cast_zero, zero_mul]

lemma toRat_shift (m k : ℕ) (e : ℤ) :
    (⟨m * 2 ^ k, e - k⟩ : Magnitude).toRat = (⟨m, e⟩ : Magnitude).toRat := by
  simp only [toRat]
  rw [zpow_sub₀ two_ne_zero, zpow_natCast, Nat.cast_mul, Nat.cast_pow, Nat.cast_ofNat, mul_assoc,
    mul_div_cancel₀ _ (by positivity)]

lemma scaled_pos (a : Magnitude) (shift : ℤ) : 0 < (a.scaled shift).2 := Nat.two_pow_pos _

lemma scaled_div (a : Magnitude) (shift : ℤ) :
    ((a.scaled shift).1 / (a.scaled shift).2 : ℚ) = a.toRat * 2 ^ shift := by
  have htwo : (2 : ℚ) ≠ 0 := two_ne_zero
  have hsplit : a.exponent + shift =
      (a.exponent + shift).toNat - (-(a.exponent + shift)).toNat := by omega
  calc ((a.scaled shift).1 / (a.scaled shift).2 : ℚ)
      = a.mantissa * (2 ^ (a.exponent + shift).toNat / 2 ^ (-(a.exponent + shift)).toNat) := by
        simp only [scaled, Nat.pow_eq]
        push_cast
        rw [mul_div_assoc]
    _ = a.mantissa * 2 ^ (a.exponent + shift) := by
        rw [← zpow_natCast, ← zpow_natCast, ← zpow_sub₀ htwo, ← hsplit]
    _ = a.toRat * 2 ^ shift := by rw [zpow_add₀ htwo, toRat, mul_assoc]

end Magnitude

/-- A number with the sign that a bit stands for. -/
def signed (negative : Bool) (q : ℚ) : ℚ := if negative then -q else q

variable {negative : Bool} {x : Binary32} {a : Magnitude}

@[simp] lemma signed_zero : signed negative 0 = 0 := by cases negative <;> rfl

lemma signed_mul (q r : ℚ) : signed negative q * r = signed negative (q * r) := by
  cases negative
  · rfl
  · exact neg_mul q r

lemma abs_signed {q : ℚ} (hq : 0 ≤ q) : |signed negative q| = q := by
  cases negative
  · exact abs_of_nonneg hq
  · exact (abs_neg q).trans (abs_of_nonneg hq)

lemma isNearest_signed {q : ℚ} {n : ℕ} (h : IsNearest q n) :
    IsNearest (signed negative q) (if negative then -(n : ℤ) else n) := by
  cases negative
  · exact h
  · exact h.neg

/-- The exact value; none for infinities and for what is not a number. -/
def toRat? (x : Binary32) : Option ℚ := x.magnitude?.map fun a => signed x.isNegative a.toRat

lemma toRat?_eq (h : x.magnitude? = some a) : x.toRat? = some (signed x.isNegative a.toRat) := by
  rw [toRat?, h, Option.map_some]

lemma toRat?_eq_none_iff : x.toRat? = none ↔ x.exponentField = 255 := by
  rw [toRat?, Option.map_eq_none_iff, magnitude?]
  split
  · next h => exact iff_of_true rfl h
  · next h => split <;> exact iff_of_false nofun h

lemma fields_ofNat (negative : Bool) {exponent fraction : ℕ} (hexponent : exponent < 256)
    (hfraction : fraction < 0x800000) :
    let x : Binary32 :=
      ⟨UInt32.ofNat ((if negative then 0x80000000 else 0) + exponent * 0x800000 + fraction)⟩
    x.isNegative = negative ∧ x.exponentField = exponent ∧ x.fractionField = fraction := by
  simp only [isNegative, exponentField, fractionField, UInt32.toNat_ofNat']
  cases negative
  · simp only [Bool.false_eq_true, if_false, decide_eq_false_iff_not]
    omega
  · simp only [if_true, decide_eq_true_eq]
    omega

lemma log2_shift_range {n : ℕ} (hn : n ≠ 0) (hlt : n < 0x1000000) :
    n.log2 ≤ 23 ∧ 0x800000 ≤ n * 2 ^ (23 - n.log2) ∧ n * 2 ^ (23 - n.log2) < 0x1000000 := by
  have htop : n.log2 < 24 := (Nat.log2_lt hn).2 hlt
  have hlow : 2 ^ n.log2 * 2 ^ (23 - n.log2) = 0x800000 := by
    rw [← pow_add, Nat.add_sub_cancel' (Nat.le_of_lt_succ htop)]
    rfl
  have hhigh : 2 ^ (n.log2 + 1) * 2 ^ (23 - n.log2) = 0x1000000 := by
    rw [pow_succ, Nat.mul_right_comm, hlow]
  refine ⟨Nat.le_of_lt_succ htop, ?_, ?_⟩
  · exact hlow ▸ Nat.mul_le_mul_right _ (Nat.log2_self_le hn)
  · exact hhigh ▸ Nat.mul_lt_mul_of_pos_right Nat.lt_log2_self (Nat.two_pow_pos _)

lemma magnitude?_ofFraction (negative : Bool) {n : ℕ} (hn : n ≠ 0) (hlt : n < 0x1000000)
    {exponent : ℤ} (hlow : -126 ≤ exponent) (hhigh : exponent ≤ 104) :
    (ofFraction negative n exponent).magnitude? =
        some ⟨n * 2 ^ (23 - n.log2), exponent - (23 - n.log2 : ℕ)⟩ ∧
      (ofFraction negative n exponent).isNegative = negative := by
  obtain ⟨htop, hhidden, hbound⟩ := log2_shift_range hn hlt
  obtain ⟨hsign, hexponent, hfraction⟩ := fields_ofNat negative
    (show (127 + (n.log2 : ℤ) + exponent).toNat < 256 by omega)
    (show n * 2 ^ (23 - n.log2) - 0x800000 < 0x800000 by omega)
  have hshape : ofFraction negative n exponent = ⟨.ofNat ((if negative then 0x80000000 else 0) +
      (127 + (n.log2 : ℤ) + exponent).toNat * 0x800000 + (n * 2 ^ (23 - n.log2) - 0x800000))⟩ := by
    rw [ofFraction, if_neg hn]
    rfl
  rw [hshape]
  refine ⟨?_, hsign⟩
  -- The exponent field stays away from both ends, so the hidden bit is added again.
  rw [magnitude?, hexponent, hfraction, if_neg (by omega), if_neg (by omega), Option.some.injEq,
    Magnitude.mk.injEq]
  omega

lemma toRat?_ofFraction {n : ℕ} {exponent : ℤ} (hlt : n < 0x1000000) (hlow : -126 ≤ exponent)
    (hhigh : exponent ≤ 104) :
    (ofFraction negative n exponent).toRat? = some (signed negative (n * 2 ^ exponent)) := by
  by_cases hn : n = 0
  · rw [hn, Nat.cast_zero, zero_mul, signed_zero, ofFraction, if_pos rfl]
    simp [toRat?, magnitude?, exponentField, fractionField, Magnitude.toRat]
  · obtain ⟨hmagnitude, hsign⟩ := magnitude?_ofFraction negative hn hlt hlow hhigh
    rw [toRat?_eq hmagnitude, hsign, Magnitude.toRat_shift]
    rfl

end Binary32

end Telecontrol
