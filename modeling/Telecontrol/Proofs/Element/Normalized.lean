import Telecontrol.Element.Value
import Telecontrol.Proofs.Binary32.Single
import Telecontrol.Proofs.Fallible

/-!
# Normalized values and the numbers they stand for

A finite single precision number from `-1` to one step below `1` is taken to the nearest number of
steps, and every value stands for a number that is taken to it. The conversions of the library are
made in exact arithmetic; the single precision operations that they stand for come to the same.
-/

namespace Telecontrol.Normalized

variable {x y : Binary32} {a : Binary32.Magnitude} {v w : ℚ} {e e' : Normalized}

lemma isNearest_stepsOf (a : Binary32.Magnitude) : IsNearest (a.toRat * 2 ^ 15) (stepsOf a) := by
  have hnearest := Binary32.isNearest_roundHalfUp (a.scaled 15).1 (a.scaled_pos 15)
  rw [a.scaled_div] at hnearest
  exact hnearest

lemma within_iff {limit : ℕ} : within a limit ↔ a.toRat * 2 ^ 15 ≤ limit := by
  have hpos : (0 : ℚ) < (a.scaled 15).2 := mod_cast a.scaled_pos 15
  have hscaled := a.scaled_div 15
  rw [zpow_ofNat] at hscaled
  rw [← hscaled, div_le_iff₀ hpos, within]
  simp only [decide_eq_true_eq]
  exact_mod_cast Iff.rfl

/-- The numbers that are taken: from `-1` to one step below `1`. -/
def InRange (v : ℚ) : Prop := -1 ≤ v ∧ v ≤ 1 - 1 / 2 ^ 15

instance : Decidable (InRange v) := inferInstanceAs (Decidable (_ ∧ _))

lemma InRange.bounds (h : InRange v) {n : ℤ} (hn : IsNearest (v * 2 ^ 15) n) :
    -32768 ≤ n ∧ n ≤ 32767 := by
  obtain ⟨hlow, hhigh⟩ := h
  exact hn.bounds (by push_cast; linarith) (by push_cast; linarith)

lemma ofBinary32_spec (h : x.toRat? = some v) : ∃ n : ℤ, IsNearest (v * 2 ^ 15) n ∧
    ofBinary32 x = if InRange v then .ok ⟨Int16.ofInt n⟩
      else .error (.domain (.normalizedRange x)) := by
  rw [Binary32.toRat?, Option.map_eq_some_iff] at h
  obtain ⟨a, ha, rfl⟩ := h
  have hpos := a.toRat_nonneg
  rw [ofBinary32, ha]
  refine ⟨_, Binary32.signed_mul _ _ ▸ Binary32.isNearest_signed (isNearest_stepsOf a), ?_⟩
  -- Only one end of the range matters for either sign.
  refine if_congr (within_iff.trans ?_) rfl rfl
  cases x.isNegative
  · simp only [Bool.false_eq_true, if_false, InRange, Binary32.signed, Nat.cast_ofNat]
    constructor
    · intro h
      constructor <;> linarith
    · rintro ⟨-, h⟩
      linarith
  · simp only [if_true, InRange, Binary32.signed, Nat.cast_ofNat]
    constructor
    · intro h
      constructor <;> linarith
    · rintro ⟨h, -⟩
      linarith

lemma ofBinary32_eq_ok_iff : ofBinary32 x = .ok e ↔
    ∃ v, x.toRat? = some v ∧ InRange v ∧ IsNearest (v * 2 ^ 15) e.steps.toInt := by
  cases h : x.toRat? with
  | none => simp [ofBinary32, Option.map_eq_none_iff.1 h]
  | some v =>
    obtain ⟨n, hn, hvalue⟩ := ofBinary32_spec h
    simp only [Option.some.injEq, exists_eq_left']
    rw [hvalue]
    split
    · next hin =>
      obtain ⟨hlow, hhigh⟩ := hin.bounds hn
      have hsteps : (Int16.ofInt n).toInt = n := Int16.toInt_ofInt_of_le hlow (by omega)
      rw [Except.ok.injEq, and_iff_right hin]
      constructor
      · rintro rfl
        rwa [hsteps]
      · intro he
        rw [hn.unique he, Int16.ofInt_toInt]
    · next hout => exact iff_of_false nofun fun h => hout h.1

lemma ofBinary32_eq_error (h : ∀ v, x.toRat? = some v → ¬InRange v) :
    ofBinary32 x = .error (.domain (.normalizedRange x)) := by
  cases hx : x.toRat? with
  | none => rw [ofBinary32, Option.map_eq_none_iff.1 hx]
  | some v =>
    obtain ⟨n, -, hvalue⟩ := ofBinary32_spec hx
    rw [hvalue, if_neg (h v hx)]

lemma steps_neg_iff (e : Normalized) : e.steps < 0 ↔ e.steps.toInt < 0 := Int16.lt_iff_toInt_lt

lemma toRat?_value (e : Normalized) : e.value.toRat? = some (e.steps.toInt / 2 ^ 15 : ℚ) := by
  have hlow := e.steps.le_toInt
  have hhigh := e.steps.toInt_lt
  have hsigned : Binary32.signed (e.steps < 0) (e.steps.toInt.natAbs : ℕ) = e.steps.toInt := by
    rw [Binary32.signed, Nat.cast_natAbs]
    simp only [decide_eq_true_eq, steps_neg_iff]
    split
    · next h => rw [abs_of_neg h, Int.cast_neg, neg_neg]
    · next h => rw [abs_of_nonneg (not_lt.1 h)]
  rw [value, Binary32.toRat?_ofFraction (by omega) (by decide) (by decide), Option.some.injEq,
    ← Binary32.signed_mul, hsigned, zpow_neg, zpow_ofNat, div_eq_mul_inv]

lemma abs_value_sub_le {n : ℤ} (h : IsNearest (v * 2 ^ 15) n) : |n / 2 ^ 15 - v| ≤ 1 / 2 ^ 16 := by
  have hdistance : (n / 2 ^ 15 - v : ℚ) = -((v * 2 ^ 15 - n) / 2 ^ 15) := by ring
  rw [hdistance, abs_neg, abs_div, abs_of_pos (show (0 : ℚ) < 2 ^ 15 by positivity),
    div_le_iff₀ (by positivity)]
  exact h.abs_sub_le.trans (by norm_num)

lemma inRange_value (e : Normalized) : InRange (e.steps.toInt / 2 ^ 15 : ℚ) := by
  have hlow : (-2 ^ 15 : ℚ) ≤ e.steps.toInt := mod_cast e.steps.le_toInt
  have hhigh : (e.steps.toInt : ℚ) ≤ 2 ^ 15 - 1 := mod_cast Int.le_sub_one_of_lt e.steps.toInt_lt
  constructor
  · rw [le_div_iff₀ (by positivity)]
    linarith
  · rw [div_le_iff₀ (by positivity)]
    linarith

lemma ofBinary32_value (e : Normalized) : ofBinary32 e.value = .ok e := by
  refine ofBinary32_eq_ok_iff.2 ⟨_, e.toRat?_value, e.inRange_value, ?_⟩
  rw [div_mul_cancel₀ _ (by positivity)]
  exact .intCast _

/-! ### The same in single precision arithmetic -/

def lowest : Binary32 := .ofInt (-1)

def highest : Binary32 := (Binary32.ofInt 1).sub ((Binary32.ofInt 1).div .scale)

lemma toRat?_lowest : lowest.toRat? = some (-1) := by
  rw [lowest, Binary32.ofInt_eq (by decide),
    Binary32.toRat?_ofFraction (by decide) (by decide) (by decide), Option.some.injEq]
  norm_num [Binary32.signed]

lemma toRat?_highest : highest.toRat? = some (1 - 1 / 2 ^ 15) := by
  have hmagnitude : highest.magnitude? = some ⟨0xfffe00, -24⟩ := by decide
  have hpositive : highest.isNegative = false := by decide
  rw [Binary32.toRat?_eq hmagnitude, hpositive, Option.some.injEq]
  norm_num [Binary32.signed, Binary32.Magnitude.toRat]

/-- A number is taken to a value in single precision arithmetic: it is compared with the ends of the
range, and its product with `2 ^ 15` is rounded and clamped to sixteen bits. -/
structure InSingle (x : Binary32) (e : Normalized) : Prop where
  finite : x.isFinite
  low : lowest.le x
  high : x.le highest
  rounded : ∃ p n, (x.mul .scale).toRat? = some p ∧ IsNearest p n ∧ e.steps = Int16.ofIntClamp n

/-- The product is exact, and what it is rounded to is in no need of clamping. -/
lemma inSingle_iff : InSingle x e ↔ ofBinary32 x = .ok e := by
  have hrange {v : ℚ} (h : x.toRat? = some v) : InRange v ↔ lowest.le x ∧ x.le highest := by
    rw [Binary32.le_iff toRat?_lowest h, Binary32.le_iff h toRat?_highest, InRange]
  have hproduct {v : ℚ} (h : x.toRat? = some v) (hin : InRange v) :
      (x.mul .scale).toRat? = some (v * 2 ^ 15) := by
    obtain ⟨hlow, hhigh⟩ := hin
    exact Binary32.toRat?_mul_scale h (abs_le.2 ⟨hlow, by linarith⟩)
  rw [ofBinary32_eq_ok_iff]
  constructor
  · rintro ⟨hfinite, hlow, hhigh, p, n, hp, hn, he⟩
    obtain ⟨v, hv⟩ := Binary32.isFinite_iff.1 hfinite
    have hin := (hrange hv).2 ⟨hlow, hhigh⟩
    obtain rfl : v * 2 ^ 15 = p := Option.some.inj ((hproduct hv hin).symm.trans hp)
    obtain ⟨hn_low, hn_high⟩ := hin.bounds hn
    refine ⟨v, hv, hin, ?_⟩
    rwa [he, Int16.toInt_ofIntClamp hn_low hn_high]
  · rintro ⟨v, hv, hin, hnearest⟩
    obtain ⟨hlow, hhigh⟩ := (hrange hv).1 hin
    exact ⟨Binary32.isFinite_iff.2 ⟨v, hv⟩, hlow, hhigh, _, _, hproduct hv hin, hnearest,
      (Int16.ofIntClamp_toInt _).symm⟩

lemma value_eq_div (e : Normalized) : e.value = (Binary32.ofInt e.steps.toInt).div .scale := by
  have hlow := e.steps.le_toInt
  have hhigh := e.steps.toInt_lt
  by_cases hzero : e.steps.toInt = 0
  · have he : e = ⟨0⟩ := congrArg mk (Int16.toInt_inj.1 hzero)
    rw [he]
    decide
  · have hn : e.steps.toInt.natAbs ≠ 0 := by omega
    have hlt : e.steps.toInt.natAbs < 0x1000000 := by omega
    obtain ⟨-, hhidden, -⟩ := Binary32.log2_shift_range hn hlt
    obtain ⟨hvalue, hsign⟩ := Binary32.magnitude?_ofFraction (e.steps < 0) hn hlt
      (show -126 ≤ -15 by decide) (by decide)
    obtain ⟨hsteps, hsign'⟩ := Binary32.magnitude?_ofFraction (e.steps.toInt < 0) hn hlt
      (show -126 ≤ 0 by decide) (by decide)
    rw [Binary32.ofInt_eq hlt, Binary32.div_scale hsteps (Nat.not_lt.2 hhidden) (by dsimp only; omega),
      value, Binary32.eq_pattern hvalue, hsign, hsign']
    simp only [steps_neg_iff]
    congr 2
    omega

/-- A number from `-1` to one step below `1` is taken to the nearest number of steps, halves away from
zero; that fits into sixteen bits as it is, so the value differs from the number by half a step at
most, and larger numbers never get smaller values. Any other number is refused, and so is what is not
finite. A value's own number is taken to the value. Single precision arithmetic comes to the same. -/
theorem ofBinary32_nearest (x : Binary32) :
    (∀ v, x.toRat? = some v → InRange v → ∃ e w, ofBinary32 x = .ok e ∧
      IsNearest (v * 2 ^ 15) e.steps.toInt ∧
      (∀ n, IsNearest (v * 2 ^ 15) n → -32768 ≤ n ∧ n ≤ 32767) ∧
      e.value.toRat? = some w ∧ |w - v| ≤ 1 / 2 ^ 16) ∧
    ((∀ v, x.toRat? = some v → ¬InRange v) →
      ofBinary32 x = .error (.domain (.normalizedRange x))) ∧
    (∀ y v w e e', x.toRat? = some v → y.toRat? = some w → v ≤ w →
      ofBinary32 x = .ok e → ofBinary32 y = .ok e' → e.steps ≤ e'.steps) ∧
    (∀ e : Normalized, ofBinary32 e.value = .ok e) ∧
    (∀ e, InSingle x e ↔ ofBinary32 x = .ok e) ∧
    ∀ e : Normalized, e.value = (Binary32.ofInt e.steps.toInt).div .scale := by
  refine ⟨fun v hv hin => ?_, ofBinary32_eq_error, fun y v w e e' hv hw hle he he' => ?_,
    ofBinary32_value, fun e => inSingle_iff, value_eq_div⟩
  · obtain ⟨n, hn, hvalue⟩ := ofBinary32_spec hv
    rw [if_pos hin] at hvalue
    obtain ⟨v', hv', -, hnearest⟩ := ofBinary32_eq_ok_iff.1 hvalue
    obtain rfl : v = v' := Option.some.inj (hv.symm.trans hv')
    exact ⟨_, _, hvalue, hnearest, fun n hn => hin.bounds hn, toRat?_value _,
      abs_value_sub_le hnearest⟩
  · obtain ⟨v', hv', -, hnearest⟩ := ofBinary32_eq_ok_iff.1 he
    obtain ⟨w', hw', -, hnearest'⟩ := ofBinary32_eq_ok_iff.1 he'
    obtain rfl : v = v' := Option.some.inj (hv.symm.trans hv')
    obtain rfl : w = w' := Option.some.inj (hw.symm.trans hw')
    exact Int16.le_iff_toInt_le.2 (hnearest.mono hnearest' (by linarith))

/-- Two and a half steps below zero, and the first number above the range. -/
theorem ofBinary32_nearest_tie :
    (⟨0xb8a00000⟩ : Binary32).toRat? = some (-(5 / 2) / 2 ^ 15) ∧ InRange (-(5 / 2) / 2 ^ 15) ∧
      ofBinary32 ⟨0xb8a00000⟩ = .ok ⟨-3⟩ ∧
      (⟨0x3f7ffe01⟩ : Binary32).toRat? = some (1 - 511 / 2 ^ 24) ∧ ¬InRange (1 - 511 / 2 ^ 24) ∧
      ofBinary32 ⟨0x3f7ffe01⟩ = .error (.domain (.normalizedRange ⟨0x3f7ffe01⟩)) := by
  have hexact : (⟨0xb8a00000⟩ : Binary32).toRat? = some (-(5 / 2) / 2 ^ 15) := by
    have hmagnitude : (⟨0xb8a00000⟩ : Binary32).magnitude? = some ⟨0xa00000, -37⟩ := by decide
    have hnegative : (⟨0xb8a00000⟩ : Binary32).isNegative = true := by decide
    rw [Binary32.toRat?_eq hmagnitude, hnegative, Option.some.injEq]
    norm_num [Binary32.signed, Binary32.Magnitude.toRat]
  have habove : (⟨0x3f7ffe01⟩ : Binary32).toRat? = some (1 - 511 / 2 ^ 24) := by
    have hmagnitude : (⟨0x3f7ffe01⟩ : Binary32).magnitude? = some ⟨0xfffe01, -24⟩ := by decide
    have hpositive : (⟨0x3f7ffe01⟩ : Binary32).isNegative = false := by decide
    rw [Binary32.toRat?_eq hmagnitude, hpositive, Option.some.injEq]
    norm_num [Binary32.signed, Binary32.Magnitude.toRat]
  have hin : InRange (-(5 / 2) / 2 ^ 15) := by norm_num [InRange]
  have hout : ¬InRange (1 - 511 / 2 ^ 24) := by norm_num [InRange]
  obtain ⟨e, -, he, hnearest, -⟩ := (ofBinary32_nearest ⟨0xb8a00000⟩).1 _ hexact hin
  have hthree : IsNearest (-(5 / 2) / 2 ^ 15 * 2 ^ 15) (-3) := by
    rw [div_mul_cancel₀ _ (by positivity)]
    exact (IsNearest.of_mem_Ico (by norm_num) (by norm_num) (by norm_num)).neg
  have hsteps : e = ⟨-3⟩ := congrArg mk (Int16.toInt_inj.1 (hnearest.unique hthree))
  refine ⟨hexact, hin, hsteps ▸ he, habove, hout, (ofBinary32_nearest _).2.1 fun v hv => ?_⟩
  rwa [← Option.some.inj (habove.symm.trans hv)]

end Telecontrol.Normalized
