import SignalReplay.Decimal.Rounding
import SignalReplay.Proofs.Binary64.Size

/-!
Rounding to decimal places in binary arithmetic. The number is scaled up, which may round it, taken
to the nearest whole number, with a half away from zero, and scaled down, which may round it again.
-/

namespace SignalReplay.Decimal

open Binary64

variable {value : Float}

/-! ## Whole numbers -/

/-- The whole number nearest to `x`, and the greater one if two are equally near. -/
def halfUp (x : ℚ) : ℕ :=
  ⌊x + 1 / 2⌋₊

@[simp]
theorem halfUp_natCast (whole : ℕ) : halfUp whole = whole := by
  rw [halfUp, Nat.floor_eq_iff (by positivity)]
  constructor <;> linarith

theorem halfUp_mono {x y : ℚ} (le : x ≤ y) : halfUp x ≤ halfUp y :=
  Nat.floor_mono (by linarith)

theorem halfUp_quotient (numerator : ℕ) {denominator : ℕ} (positive : 0 < denominator) :
    (2 * numerator + denominator) / (2 * denominator) = halfUp (numerator / denominator) := by
  have positiveCast : (0 : ℚ) < denominator := by exact_mod_cast positive
  have quotient : (numerator : ℚ) / denominator + 1 / 2 =
      ((2 * numerator + denominator : ℕ) : ℚ) / ((2 * denominator : ℕ) : ℚ) := by
    push_cast
    field_simp
  rw [halfUp, quotient, Nat.floor_div_eq_div]

theorem magnitude_of_whole {bits : ℕ} (whole : 0 ≤ Binary64.exponent bits) :
    magnitude bits = (significand bits * 2 ^ (Binary64.exponent bits).toNat : ℕ) := by
  rw [magnitude]
  push_cast
  rw [← zpow_natCast, Int.toNat_of_nonneg whole]

theorem magnitude_of_fraction {bits : ℕ} (fraction : Binary64.exponent bits ≤ 0) :
    magnitude bits = significand bits / (2 ^ (-Binary64.exponent bits).toNat : ℕ) := by
  push_cast
  rw [magnitude, eq_div_iff (by positivity), mul_assoc, ← zpow_natCast,
    Int.toNat_of_nonneg (by omega), ← two_zpow_add, add_neg_cancel, zpow_zero, mul_one]

theorem magnitude_nearest_one {whole : ℕ} (short : whole < 2 ^ 53) :
    nearest whole 1 < infinityBits ∧ magnitude (nearest whole 1) = whole := by
  rcases rounds_exact short (show (-1074 : ℤ) ≤ 0 by decide) (by decide) with
    ⟨bits, below, exact, equal⟩
  rw [zpow_zero, mul_one] at exact equal
  have rounds := rounds_nearest whole Nat.one_pos
  rw [Nat.cast_one, div_one] at rounds
  rw [rounds.unique exact]
  exact ⟨below, equal⟩

theorem fields_roundHalfAway (finite : value.isFinite = true) :
    (roundHalfAway value).isFinite = true ∧
      isNegative (roundHalfAway value) = isNegative value ∧
      magnitude (magnitudeBits (roundHalfAway value)) =
        halfUp (magnitude (magnitudeBits value)) := by
  have below := finite
  rw [isFinite_eq, decide_eq_true_eq] at below
  unfold roundHalfAway
  dsimp only
  split
  · next guard =>
      have whole : 0 ≤ Binary64.exponent (magnitudeBits value) := by
        rw [Bool.or_eq_true, decide_eq_true_eq, decide_eq_true_eq] at guard
        omega
      rw [magnitude_of_whole whole, halfUp_natCast]
      exact ⟨finite, rfl, rfl⟩
  · next guard =>
      have fraction : Binary64.exponent (magnitudeBits value) ≤ 0 := by
        rw [Bool.or_eq_true, decide_eq_true_eq, decide_eq_true_eq] at guard
        omega
      have canonical := @canonical_fields (magnitudeBits value)
      have unit_pos := Nat.two_pow_pos (-Binary64.exponent (magnitudeBits value)).toNat
      rw [magnitude_of_fraction fraction, ← halfUp_quotient _ unit_pos]
      simp only [Nat.pow_eq]
      generalize 2 ^ (-Binary64.exponent (magnitudeBits value)).toNat = unit at unit_pos
      have short : (2 * significand (magnitudeBits value) + unit) / (2 * unit) < 2 ^ 53 := by
        have bound := canonical.mantissa_lt
        rw [Nat.div_lt_iff_lt_mul (by omega)]
        nlinarith
      rcases magnitude_nearest_one short with ⟨nearestFinite, equal⟩
      have fields := fields_ofMagnitude (isNegative value) nearestFinite.le
      rw [isFinite_eq, fields.1, fields.2, decide_eq_true nearestFinite]
      exact ⟨rfl, rfl, equal⟩

/-! ## Scaled numbers -/

def scale : Float :=
  tenToThe (4 : UInt32).toInt32.toInt

theorem ofSize_scale : OfSize 14 scale ∧ Binary64.toRat scale = 10 ^ 4 := by
  have pattern : scale = Float.ofBits 0x40C3880000000000 := by decide +kernel
  have fields : isNegative (Float.ofBits 0x40C3880000000000) = false ∧
      magnitudeBits (Float.ofBits 0x40C3880000000000) = 0x40C3880000000000 := by decide
  have equal : Binary64.toRat (Float.ofBits 0x40C3880000000000) = 10 ^ 4 := by
    rw [toRat_of_nonneg fields.1, fields.2]
    norm_num [magnitude, significand, Binary64.exponent, leadingBit]
  rw [pattern]
  refine ⟨⟨⟨by decide, ?_⟩, fun _ => ?_⟩, equal⟩
  all_goals
    rw [equal]
    norm_num

/-- The whole number of ten-thousandths to which a number is rounded in binary arithmetic. -/
def wholeUnits (value : Float) : ℕ :=
  halfUp (magnitude (magnitudeBits (value * scale)))

variable {power : ℤ}

theorem within_product (within : Within power value) (least : 0 ≤ power) (greatest : power ≤ 900) :
    Within (power + 14) (value * scale) :=
  within.mul ofSize_scale.1.toWithin (by omega) (by omega)

theorem within_roundHalfAway (within : Within power value) (least : 0 ≤ power) :
    Within power (roundHalfAway value) := by
  rcases fields_roundHalfAway within.finite with ⟨finite, _, equal⟩
  refine ⟨finite, ?_⟩
  have bound := within.le
  have whole : (2 : ℚ) ^ power = (2 ^ power.toNat : ℕ) := by
    push_cast
    rw [← zpow_natCast, Int.toNat_of_nonneg least]
  rw [abs_toRat] at bound ⊢
  rw [equal, whole]
  rw [whole] at bound
  have ordered := halfUp_mono bound
  rw [halfUp_natCast] at ordered
  exact_mod_cast ordered

theorem decide_mul_neg {factor : ℚ} (nonzero : Binary64.toRat value ≠ 0) (positive : 0 < factor) :
    decide (Binary64.toRat value * factor < 0) = isNegative value := by
  have nonneg := magnitude_nonneg (magnitudeBits value)
  cases sign : isNegative value with
  | false =>
      rw [toRat_of_nonneg sign]
      exact decide_eq_false (not_lt.mpr (mul_nonneg nonneg positive.le))
  | true =>
      rw [toRat_of_neg sign] at nonzero ⊢
      have less : -magnitude (magnitudeBits value) < 0 :=
        lt_of_le_of_ne (neg_nonpos.mpr nonneg) nonzero
      exact decide_eq_true (mul_neg_of_neg_of_pos less positive)

/-- The rounded number is finite, and it is what its whole units are rounded to. -/
theorem isRounded_roundTo (within : Within power value) (least : 0 ≤ power)
    (greatest : power ≤ 900) :
    (roundTo value 4).isFinite = true ∧
      IsRounded (signed (isNegative value) (wholeUnits value / 10 ^ 4)) (roundTo value 4) := by
  rcases ofSize_scale with ⟨scaleSize, scaleValue⟩
  have product := within_product within least greatest
  have rounded := isRounded_mul within.finite scaleSize.finite
  rcases fields_roundHalfAway product.finite with ⟨wholeFinite, sign, units⟩
  have wholeWithin := within_roundHalfAway product (by omega)
  have nonzero : Binary64.toRat scale ≠ 0 := by
    rw [scaleValue]
    norm_num
  have quotient : roundTo value 4 = roundHalfAway (value * scale) / scale := rfl
  have exact : Binary64.toRat (roundHalfAway (value * scale)) =
      signed (isNegative value) (wholeUnits value) := by
    rw [Binary64.toRat, sign, units, wholeUnits]
    by_cases zero : Binary64.toRat value * Binary64.toRat scale = 0
    · rw [zero] at rounded
      have vanishes := rounded.rounds
      rw [abs_zero] at vanishes
      rw [vanishes.unique rounds_zero, magnitude_zero, show halfUp 0 = 0 from halfUp_natCast 0,
        Nat.cast_zero, signed_zero, signed_zero]
    · rw [rounded.sign zero, scaleValue, decide_mul_neg (left_ne_zero_of_mul zero) (by norm_num)]
  have result := isRounded_div wholeFinite scaleSize.finite nonzero
  rw [exact, scaleValue] at result
  rw [quotient]
  refine ⟨(wholeWithin.div scaleSize nonzero (by omega) (by omega)).finite, ?_⟩
  have split : signed (isNegative value) (wholeUnits value / 10 ^ 4) =
      signed (isNegative value) (wholeUnits value) / 10 ^ 4 := by
    cases isNegative value <;> simp [signed, neg_div]
  rw [split]
  exact result

end SignalReplay.Decimal
