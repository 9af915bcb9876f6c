import SignalReplay.Proofs.Binary64.Order
import SignalReplay.Proofs.Binary64.Rounding

/-!
Rounding of numbers that were cut off. Two bits beside the last place tell on which side of a half
the rest lies, however often places are dropped, so rounding what is left rounds the number that it
was cut from.
-/

namespace SignalReplay.Binary64

open Float.Model Float.Model.UnpackedFloat

/-! ## Cutting off -/

/-- What is left of `x` once it is cut off: the whole number below it, whether the rest reaches a
half, and whether there is more of it than that. -/
inductive Truncates : ExtendedMantissa → ℚ → Prop
  | exact {whole : ℕ} {x : ℚ} (equal : x = whole) : Truncates ⟨whole, false, false⟩ x
  | belowHalf {whole : ℕ} {x : ℚ} (more : whole < x) (less : x < whole + 1 / 2) :
    Truncates ⟨whole, false, true⟩ x
  | half {whole : ℕ} {x : ℚ} (equal : x = whole + 1 / 2) : Truncates ⟨whole, true, false⟩ x
  | aboveHalf {whole : ℕ} {x : ℚ} (more : whole + 1 / 2 < x) (less : x < whole + 1) :
    Truncates ⟨whole, true, true⟩ x

theorem truncates_fraction (whole : ℕ) {rest denominator : ℕ} (proper : rest < denominator) :
    Truncates (ExtendedMantissa.ofMantissaAndAccuracy whole (accuracyOfFraction rest denominator))
      (whole + rest / denominator) := by
  have positive : 0 < denominator := Nat.zero_lt_of_lt proper
  have positiveCast : (0 : ℚ) < denominator := by exact_mod_cast positive
  have small : (rest : ℚ) / denominator < 1 := by
    rw [div_lt_one positiveCast]
    exact_mod_cast proper
  unfold accuracyOfFraction
  by_cases zero : rest = 0
  · rw [if_pos zero]
    exact .exact (by simp [zero])
  · have restPositive : (0 : ℚ) < (rest : ℚ) / denominator :=
      div_pos (by exact_mod_cast Nat.pos_of_ne_zero zero) positiveCast
    rw [if_neg zero]
    rcases lt_trichotomy (2 * rest) denominator with less | equal | more
    · have half := (div_lt_half_iff positive).mpr less
      rw [Nat.compare_eq_lt.mpr less]
      exact .belowHalf (by linarith) (by linarith)
    · have half := (div_eq_half_iff positive).mpr equal
      rw [Nat.compare_eq_eq.mpr equal]
      exact .half (by rw [half])
    · have half := (half_lt_div_iff positive).mpr more
      rw [Nat.compare_eq_gt.mpr more]
      exact .aboveHalf (by linarith) (by linarith)

/-- The digit that is dropped from a number with a rest tells on which side of a half the new rest
lies. -/
theorem truncates_half {whole : ℕ} {x : ℚ} (more : whole < x) (less : x < whole + 1) :
    Truncates ⟨whole / 2, whole % 2 != 0, true⟩ (x / 2) := by
  have split : (whole : ℚ) = 2 * (whole / 2 : ℕ) + (whole % 2 : ℕ) := by
    exact_mod_cast (Nat.div_add_mod whole 2).symm
  rcases Nat.mod_two_eq_zero_or_one whole with digit | digit <;> rw [digit] at split ⊢ <;>
    push_cast at split
  · exact .belowHalf (by linarith) (by linarith)
  · exact .aboveHalf (by linarith) (by linarith)

theorem truncates_half_exact {whole : ℕ} {x : ℚ} (equal : x = whole) :
    Truncates ⟨whole / 2, whole % 2 != 0, false⟩ (x / 2) := by
  have split : (whole : ℚ) = 2 * (whole / 2 : ℕ) + (whole % 2 : ℕ) := by
    exact_mod_cast (Nat.div_add_mod whole 2).symm
  rcases Nat.mod_two_eq_zero_or_one whole with digit | digit <;> rw [digit] at split ⊢ <;>
    push_cast at split
  · exact .exact (by linarith)
  · exact .half (by linarith)

theorem Truncates.shiftRightOne {cut : ExtendedMantissa} {x : ℚ} (truncates : Truncates cut x) :
    Truncates cut.shiftRightOne (x / 2) := by
  cases truncates with
  | exact equal => exact truncates_half_exact equal
  | belowHalf more less => exact truncates_half (by linarith) (by linarith)
  | half equal => exact truncates_half (by linarith) (by linarith)
  | aboveHalf more less => exact truncates_half (by linarith) (by linarith)

theorem Truncates.shiftRight {cut : ExtendedMantissa} {x : ℚ} (truncates : Truncates cut x)
    (places : ℕ) : Truncates (cut >>> places) (x / 2 ^ places) := by
  induction places with
  | zero =>
      rw [pow_zero, div_one]
      exact truncates
  | succ places induction =>
      rw [pow_succ, ← div_div]
      exact induction.shiftRightOne

theorem Truncates.isNearestEven {cut : ExtendedMantissa} {x : ℚ} (truncates : Truncates cut x) :
    IsNearestEven x cut.roundedMantissa := by
  cases truncates with
  | exact equal =>
      rw [equal]
      exact .natCast _
  | belowHalf more less => exact .of_below_half more.le less
  | half equal => exact .of_half equal
  | aboveHalf more less => exact .of_above_half more less.le

/-! ## Rounding what is left -/

theorem two_pow_log2_le {whole : ℕ} (positive : 0 < whole) :
    (2 : ℚ) ^ (whole.log2 : ℤ) ≤ whole := by
  have le := Nat.log2_self_le positive.ne'
  exact_mod_cast le

theorem lt_two_pow_log2 (whole : ℕ) : (whole : ℚ) + 1 ≤ 2 ^ ((whole.log2 : ℤ) + 1) := by
  have lt : whole + 1 ≤ 2 ^ (whole.log2 + 1) := Nat.lt_log2_self
  exact_mod_cast lt

theorem Truncates.bounds {cut : ExtendedMantissa} {x : ℚ} (truncates : Truncates cut x) :
    cut.mantissa ≤ x ∧ x < cut.mantissa + 1 := by
  cases truncates <;> constructor <;> linarith

theorem targetExponent_eq (total : ℤ) :
    Format.binary64.targetExponent total = max (total - 53) (-1074) := rfl

theorem lastPlace_targetExponent {cut : ExtendedMantissa} {x : ℚ} {power : ℤ}
    (truncates : Truncates cut x)
    (reaches : power ≤ max (totalExponent cut.mantissa power - 53) (-1074)) :
    LastPlace (x * 2 ^ power) (max (totalExponent cut.mantissa power - 53) (-1074)) := by
  rcases truncates.bounds with ⟨le, lt⟩
  generalize cut.mantissa = whole at *
  unfold totalExponent at *
  have high : x * 2 ^ power < 2 ^ ((whole.log2 : ℤ) + 1 + power) := by
    rw [two_zpow_add]
    exact mul_lt_mul_of_pos_right (lt.trans_le (lt_two_pow_log2 whole)) (two_zpow_pos power)
  refine ⟨le_max_right _ _, high.trans_le (two_zpow_le (by omega)), ?_⟩
  rcases Nat.eq_zero_or_pos whole with zero | positive
  · rw [zero] at reaches ⊢
    rw [show (0 : ℕ).log2 = 0 from rfl] at reaches ⊢
    exact .inr (by omega)
  · rcases le_total (-1074) ((whole.log2 : ℤ) + 1 + power - 53) with above | below
    · refine .inl ?_
      rw [max_eq_left above, show 52 + ((whole.log2 : ℤ) + 1 + power - 53) = whole.log2 + power by
        ring, two_zpow_add]
      exact mul_le_mul_of_nonneg_right ((two_pow_log2_le positive).trans le) (two_zpow_pos _).le
    · exact .inr (max_eq_right below)

/-- A count of last places is shifted once more only if it takes one digit too many. -/
theorem shiftToTargetExponent_exact {count : ℕ} {unit : ℤ} (fits : count ≤ 2 ^ 53)
    (least : -1074 ≤ unit) :
    shiftToTargetExponent Format.binary64 count unit .exact =
      if count = 2 ^ 53 then (⟨2 ^ 52, false, false⟩, unit + 1)
      else (⟨count, false, false⟩, unit) := by
  unfold shiftToTargetExponent shiftToExponent
  rw [targetExponent_eq]
  dsimp only
  by_cases carries : count = 2 ^ 53
  · have digits : (2 ^ 53).log2 = 53 := Nat.log2_two_pow
    have shift : (max (totalExponent count unit - 53) (-1074) - unit).toNat = 1 := by
      rw [totalExponent, carries, digits]
      omega
    rw [shift, if_pos carries, carries]
    rfl
  · have digits : count.log2 ≤ 52 := by
      rcases Nat.eq_zero_or_pos count with zero | positive
      · rw [zero]
        decide
      · have bound := (Nat.log2_lt (k := 53) positive.ne').mpr (by omega)
        omega
    have shift : (max (totalExponent count unit - 53) (-1074) - unit).toNat = 0 := by
      rw [totalExponent]
      omega
    rw [shift, if_neg carries]
    change ((⟨count, false, false⟩ : ExtendedMantissa), unit + ((0 : ℕ) : ℤ)) = _
    rw [Nat.cast_zero, add_zero]

theorem toNat_pack_count (sign : Sign) {count : ℕ} {unit : ℤ} (fits : count ≤ 2 ^ 53)
    (least : -1074 ≤ unit) (full_or_least : 2 ^ 52 ≤ count ∨ unit = -1074) :
    let shifted := shiftToTargetExponent Format.binary64 count unit .exact
    (UnpackedFloat.pack Format.binary64
      (if zero : shifted.1.mantissa = 0 then .zero sign
        else .finite sign shifted.1.mantissa shifted.2 (Nat.pos_of_ne_zero zero))).toNat =
      word (isNegativeSign sign)
        (min ((unit + 1074).toNat * leadingBit + count) infinityBits) := by
  rw [shiftToTargetExponent_exact fits least]
  have leading : leadingBit = 2 ^ 52 := rfl
  by_cases carries : count = 2 ^ 53
  · have canonical : Canonical (2 ^ 52) (unit + 1) := ⟨by decide, by omega, .inl le_rfl⟩
    have carried : (unit + 1 + 1074).toNat * leadingBit + 2 ^ 52 =
        (unit + 1074).toNat * leadingBit + 2 ^ 53 := by
      rw [leading]
      omega
    rw [if_pos carries]
    dsimp only
    rw [dif_neg (by decide), toNat_pack_finite sign _ canonical, carries, carried]
  · rw [if_neg carries]
    dsimp only
    by_cases zero : count = 0
    · have atLeast : unit = -1074 := by omega
      rw [dif_pos zero, toNat_pack_zero, zero, atLeast]
      rfl
    · have canonical : Canonical count unit := ⟨by omega, least, full_or_least⟩
      rw [dif_neg zero, toNat_pack_finite sign _ canonical]

theorem exists_pack_roundWithAccuracy (sign : Sign) {mantissa : ℕ} {power : ℤ}
    {accuracy : Accuracy} {x : ℚ}
    (truncates : Truncates (.ofMantissaAndAccuracy mantissa accuracy) x)
    (reaches : power ≤ max (totalExponent mantissa power - 53) (-1074)) :
    ∃ bits, Rounds (x * 2 ^ power) bits ∧
      (UnpackedFloat.pack Format.binary64
        (roundWithAccuracy Format.binary64 sign mantissa power accuracy)).toNat =
        word (isNegativeSign sign) bits := by
  have whole : (ExtendedMantissa.ofMantissaAndAccuracy mantissa accuracy).mantissa = mantissa := by
    cases accuracy with
    | exact => rfl
    | inexact order => cases order <;> rfl
  have place := lastPlace_targetExponent truncates (by rwa [whole])
  rw [whole] at place
  unfold roundWithAccuracy
  rw [shiftToTargetExponent, targetExponent_eq, shiftToExponent]
  generalize max (totalExponent mantissa power - 53) (-1074) = unit at *
  have nearest := (truncates.shiftRight (unit - power).toNat).isNearestEven
  dsimp only
  generalize (ExtendedMantissa.ofMantissaAndAccuracy mantissa accuracy >>>
    (unit - power).toNat).roundedMantissa = count at *
  have scaled : x / 2 ^ (unit - power).toNat = x * 2 ^ power / 2 ^ unit := by
    rw [zpow_eq_mul two_ne_zero reaches, mul_div_mul_right _ _ (two_zpow_pos power).ne']
  rw [scaled] at nearest
  have fits := place.count_le nearest
  have full_or_least := place.full_or_least.imp_left fun full => LastPlace.le_count full nearest
  have least := place.le_unit
  rw [show power + ((unit - power).toNat : ℤ) = unit by omega]
  exact ⟨_, Rounds.intro place nearest, toNat_pack_count sign fits least full_or_least⟩

theorem fields_roundWithAccuracy (sign : Sign) {mantissa : ℕ} {power : ℤ} {accuracy : Accuracy}
    {x : ℚ} (truncates : Truncates (.ofMantissaAndAccuracy mantissa accuracy) x)
    (reaches : power ≤ max (totalExponent mantissa power - 53) (-1074)) :
    let value := Float.ofModel (Float.Model.pack
      (roundWithAccuracy Format.binary64 sign mantissa power accuracy))
    isNegative value = isNegativeSign sign ∧ Rounds (x * 2 ^ power) (magnitudeBits value) := by
  intro value
  rcases exists_pack_roundWithAccuracy sign truncates reaches with ⟨bits, rounds, packed⟩
  have small : bits < signBit := lt_of_le_of_lt rounds.le_infinityBits (by decide)
  rcases (fields_of_toBits small packed : isNegative value = _ ∧ _) with ⟨negative, magnitude⟩
  rw [magnitude]
  exact ⟨negative, rounds⟩

theorem fields_round (sign : Sign) {mantissa : ℕ} (positive : 0 < mantissa) (power : ℤ) :
    let value := Float.ofModel (Float.Model.pack
      (UnpackedFloat.round Format.binary64 sign mantissa power))
    isNegative value = isNegativeSign sign ∧
      Rounds (mantissa * 2 ^ power) (magnitudeBits value) := by
  unfold UnpackedFloat.round decreaseExponent
  rw [targetExponent_eq]
  dsimp only
  generalize target : max (totalExponent mantissa power - 53) (-1074) = unit
  generalize shift : (power - unit).toNat = places
  have digits : (mantissa <<< places).log2 = mantissa.log2 + places := by
    rw [Nat.shiftLeft_eq, Nat.log2_eq_iff (Nat.mul_pos positive (Nat.two_pow_pos _)).ne',
      Nat.pow_add, show mantissa.log2 + places + 1 = mantissa.log2 + 1 + places by omega,
      Nat.pow_add]
    exact ⟨Nat.mul_le_mul_right _ (Nat.log2_self_le positive.ne'),
      Nat.mul_lt_mul_of_pos_right Nat.lt_log2_self (Nat.two_pow_pos _)⟩
  have value : ((mantissa <<< places : ℕ) : ℚ) * 2 ^ (power - places) = mantissa * 2 ^ power := by
    rw [Nat.shiftLeft_eq, Nat.cast_mul, Nat.cast_pow, Nat.cast_ofNat, mul_assoc, ← zpow_natCast,
      ← two_zpow_add, add_sub_cancel]
  have reaches : power - places ≤
      max (totalExponent (mantissa <<< places) (power - places) - 53) (-1074) := by
    rw [totalExponent] at target
    rw [totalExponent, digits]
    omega
  have fields := fields_roundWithAccuracy sign
    (show Truncates (.ofMantissaAndAccuracy (mantissa <<< places) .exact)
      ((mantissa <<< places : ℕ) : ℚ) from .exact rfl) reaches
  rwa [value] at fields

end SignalReplay.Binary64
