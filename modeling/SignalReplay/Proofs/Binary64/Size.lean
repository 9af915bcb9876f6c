import SignalReplay.Proofs.Binary64.Bounds
import SignalReplay.Proofs.Binary64.Sign

/-!
Numbers of a limited size. Differences, products and quotients of numbers that are neither too
great nor too small are finite and vanish only where the exact results do. A sum stays within a
bound however many numbers it has, since it comes to a place where they are too small to move it.
-/

namespace SignalReplay.Binary64

structure Within (power : ℤ) (value : Float) : Prop where
  finite : value.isFinite = true
  le : |toRat value| ≤ 2 ^ power

/-- A number that is zero or lies, without its sign, between a power of two and its inverse. -/
structure OfSize (power : ℤ) (value : Float) : Prop extends Within power value where
  ge : toRat value ≠ 0 → 2 ^ (-power) ≤ |toRat value|

variable {left right value total : Float} {x : ℚ} {power more : ℤ}

theorem Within.weaken (within : Within power value) (le : power ≤ more) : Within more value :=
  ⟨within.finite, within.le.trans (two_zpow_le le)⟩

theorem OfSize.weaken (size : OfSize power value) (le : power ≤ more) : OfSize more value :=
  ⟨size.toWithin.weaken le, fun nonzero => (two_zpow_le (by omega)).trans (size.ge nonzero)⟩

@[simp]
theorem abs_two_zpow (power : ℤ) : |(2 : ℚ) ^ power| = 2 ^ power :=
  abs_of_pos (two_zpow_pos power)

theorem OfSize.neg (size : OfSize power value) : OfSize power (-value) := by
  rcases toRat_neg size.finite with ⟨finite, negated⟩
  refine ⟨⟨finite, ?_⟩, fun nonzero => ?_⟩
  · rw [negated, abs_neg]
    exact size.le
  · rw [negated] at nonzero ⊢
    rw [abs_neg]
    exact size.ge (neg_ne_zero.mp nonzero)

theorem Within.ite {condition : Prop} [Decidable condition] (leftWithin : Within power left)
    (rightWithin : Within power right) : Within power (if condition then left else right) := by
  split
  · exact leftWithin
  · exact rightWithin

/-! ## Zero -/

theorem toRat_positive_zero : (0 : Float).isFinite = true ∧ toRat 0 = 0 :=
  ⟨by decide, toRat_zero (by decide)⟩

theorem pos_iff_toRat (finite : value.isFinite = true) : 0 < value ↔ 0 < toRat value := by
  rw [lt_iff_toRat toRat_positive_zero.1 finite, toRat_positive_zero.2]

theorem neg_iff_toRat (finite : value.isFinite = true) : value < 0 ↔ toRat value < 0 := by
  rw [lt_iff_toRat finite toRat_positive_zero.1, toRat_positive_zero.2]

theorem toRat_eq_zero_iff (finite : value.isFinite = true) :
    toRat value = 0 ↔ (value == 0) = true := by
  have below := pos_iff_toRat finite
  have above := neg_iff_toRat finite
  have defined := isNaN_of_isFinite finite
  rw [lt_iff, orderKey_zero] at below above
  rw [beq_iff, orderKey_zero, le_antisymm_iff, ← not_lt, ← not_lt, ← below, ← above]
  constructor
  · rintro ⟨notBelow, notAbove⟩
    have zero : (0 : Float).isNaN = false := by decide
    refine ⟨defined, zero, ?_⟩
    simp only [defined, zero, true_and] at notBelow notAbove
    omega
  · rintro ⟨_, _, equal⟩
    omega

/-! ## Results of rounding -/

namespace IsRounded

theorem toRat_eq_zero (rounded : IsRounded 0 value) : toRat value = 0 :=
  le_antisymm (rounded.toRat_nonpos le_rfl) (rounded.toRat_nonneg le_rfl)

theorem within (rounded : IsRounded x value) (le : |x| ≤ 2 ^ power) (least : -1074 ≤ power)
    (greatest : power ≤ 971) : Within power value := by
  rw [← abs_two_zpow power] at le
  rcases rounded.abs_le (representable_two_zpow least greatest) le with ⟨finite, bound⟩
  exact ⟨finite, by rwa [abs_two_zpow] at bound⟩

theorem ofSize (rounded : IsRounded x value) (le : |x| ≤ 2 ^ power)
    (ge : x ≠ 0 → 2 ^ (-power) ≤ |x|) (least : -971 ≤ power) (greatest : power ≤ 971) :
    OfSize power value := by
  have bounded := rounded.within le (by omega) greatest
  refine ⟨bounded, ?_⟩
  intro nonzero
  have positive : x ≠ 0 := by
    rintro rfl
    exact nonzero rounded.toRat_eq_zero
  have above := ge positive
  rw [← abs_two_zpow (-power)] at above ⊢
  exact rounded.le_abs bounded.finite (representable_two_zpow (by omega) (by omega)) above

theorem toRat_pos (rounded : IsRounded x value) (finite : value.isFinite = true) (positive : 0 < x)
    (least : -1074 ≤ power) (greatest : power ≤ 971) (ge : 2 ^ power ≤ |x|) : 0 < toRat value := by
  rw [← abs_two_zpow power] at ge
  have above := rounded.le_abs finite (representable_two_zpow least greatest) ge
  rw [abs_of_nonneg (rounded.toRat_nonneg positive.le), abs_two_zpow] at above
  exact (two_zpow_pos power).trans_le above

end IsRounded

/-! ## Differences -/

theorem exists_multiple {unit : ℤ} (le : unit ≤ exponent (magnitudeBits value)) :
    ∃ count : ℤ, toRat value = count * 2 ^ unit := by
  have digits : magnitude (magnitudeBits value) =
      (significand (magnitudeBits value) *
        2 ^ (exponent (magnitudeBits value) - unit).toNat : ℕ) * 2 ^ unit := by
    rw [magnitude, zpow_eq_mul two_ne_zero le]
    push_cast
    rw [mul_assoc]
  generalize significand (magnitudeBits value) *
    2 ^ (exponent (magnitudeBits value) - unit).toNat = count at digits
  rw [toRat, digits]
  cases isNegative value with
  | false => exact ⟨count, by rw [signed, if_neg Bool.false_ne_true, Int.cast_natCast]⟩
  | true => exact ⟨-count, by rw [signed, if_pos rfl, Int.cast_neg, Int.cast_natCast, neg_mul]⟩

theorem OfSize.exists_multiple (size : OfSize power value) :
    ∃ count : ℤ, toRat value = count * 2 ^ (-(power + 52)) := by
  by_cases zero : toRat value = 0
  · exact ⟨0, by rw [zero, Int.cast_zero, zero_mul]⟩
  · have above := size.ge zero
    rw [abs_toRat] at above
    have place := lastPlace_magnitude (magnitudeBits value)
    apply Binary64.exists_multiple
    have between := above.trans_lt place.lt
    rw [zpow_lt_zpow_iff_right₀ (by norm_num)] at between
    omega

theorem le_abs_sub_of_multiples {unit : ℤ} (leftMultiple : ∃ count : ℤ, toRat left = count * 2 ^ unit)
    (rightMultiple : ∃ count : ℤ, toRat right = count * 2 ^ unit)
    (nonzero : toRat left - toRat right ≠ 0) : 2 ^ unit ≤ |toRat left - toRat right| := by
  rcases leftMultiple with ⟨leftCount, leftEqual⟩
  rcases rightMultiple with ⟨rightCount, rightEqual⟩
  have difference : toRat left - toRat right = (leftCount - rightCount : ℤ) * 2 ^ unit := by
    rw [leftEqual, rightEqual]
    push_cast
    ring
  rw [difference] at nonzero ⊢
  have counts : (1 : ℚ) ≤ |((leftCount - rightCount : ℤ) : ℚ)| := by
    have whole : leftCount - rightCount ≠ 0 := by
      intro zero
      rw [zero, Int.cast_zero, zero_mul] at nonzero
      exact nonzero rfl
    exact_mod_cast Int.one_le_abs whole
  rw [abs_mul, abs_two_zpow]
  exact le_mul_of_one_le_left (two_zpow_pos _).le counts

theorem OfSize.le_abs_sub (leftSize : OfSize power left) (rightSize : OfSize power right)
    (nonzero : toRat left - toRat right ≠ 0) :
    2 ^ (-(power + 52)) ≤ |toRat left - toRat right| :=
  le_abs_sub_of_multiples leftSize.exists_multiple rightSize.exists_multiple nonzero

theorem two_zpow_succ (power : ℤ) : (2 : ℚ) ^ (power + 1) = 2 ^ power + 2 ^ power := by
  rw [two_zpow_add, zpow_one]
  ring

theorem Within.abs_sub_le (leftWithin : Within power left) (rightWithin : Within power right) :
    |toRat left - toRat right| ≤ 2 ^ (power + 1) := by
  have bound := abs_sub (toRat left) (toRat right)
  have leftBound := leftWithin.le
  have rightBound := rightWithin.le
  rw [two_zpow_succ]
  linarith

theorem Within.sub (leftWithin : Within power left) (rightWithin : Within power right)
    (least : -1075 ≤ power) (greatest : power ≤ 970) : Within (power + 1) (left - right) :=
  (isRounded_sub leftWithin.finite rightWithin.finite).within
    (leftWithin.abs_sub_le rightWithin) (by omega) (by omega)

theorem OfSize.sub (leftSize : OfSize power left) (rightSize : OfSize power right)
    (least : 0 ≤ power) (greatest : power ≤ 919) : OfSize (power + 52) (left - right) := by
  apply (isRounded_sub leftSize.finite rightSize.finite).ofSize
  · exact (leftSize.abs_sub_le rightSize.toWithin).trans (two_zpow_le (by omega))
  · exact leftSize.le_abs_sub rightSize
  · omega
  · omega

theorem OfSize.sub_pos_iff (leftSize : OfSize power left) (rightSize : OfSize power right)
    (least : 0 ≤ power) (greatest : power ≤ 919) :
    0 < toRat (left - right) ↔ toRat right < toRat left := by
  have rounded := isRounded_sub leftSize.finite rightSize.finite
  have size := leftSize.sub rightSize least greatest
  constructor
  · intro positive
    by_contra le
    have nonpositive := rounded.toRat_nonpos (by linarith)
    linarith
  · intro less
    have nonzero : toRat left - toRat right ≠ 0 := by linarith [sub_pos.mpr less]
    exact rounded.toRat_pos size.finite (sub_pos.mpr less) (by omega) (by omega)
      (leftSize.le_abs_sub rightSize nonzero)

/-! ## Products and quotients -/

theorem Within.mul (leftWithin : Within power left) (rightWithin : Within more right)
    (least : -1074 ≤ power + more) (greatest : power + more ≤ 971) :
    Within (power + more) (left * right) := by
  apply (isRounded_mul leftWithin.finite rightWithin.finite).within
  · rw [abs_mul, two_zpow_add]
    exact mul_le_mul leftWithin.le rightWithin.le (abs_nonneg _) (two_zpow_pos power).le
  · exact least
  · exact greatest

section Quotients

variable (leftWithin : Within power left) (rightSize : OfSize more right)
  (nonzero : toRat right ≠ 0)

include leftWithin rightSize nonzero

theorem OfSize.abs_div_le : |toRat left / toRat right| ≤ 2 ^ (power + more) := by
  have positive : 0 < |toRat right| := abs_pos.mpr nonzero
  rw [abs_div, div_le_iff₀ positive]
  calc |toRat left| ≤ 2 ^ (power + more) * 2 ^ (-more) := by
        rw [← two_zpow_add]
        exact leftWithin.le.trans (two_zpow_le (by omega))
    _ ≤ 2 ^ (power + more) * |toRat right| :=
        mul_le_mul_of_nonneg_left (rightSize.ge nonzero) (two_zpow_pos _).le

theorem Within.div (least : -1074 ≤ power + more) (greatest : power + more ≤ 971) :
    Within (power + more) (left / right) :=
  (isRounded_div leftWithin.finite rightSize.finite nonzero).within
    (OfSize.abs_div_le leftWithin rightSize nonzero) least greatest

end Quotients

section Quotients

variable (leftSize : OfSize power left) (rightSize : OfSize more right)
  (nonzero : toRat right ≠ 0)

include leftSize rightSize nonzero

theorem OfSize.le_abs_div (leftNonzero : toRat left ≠ 0) :
    2 ^ (-(power + more)) ≤ |toRat left / toRat right| := by
  have positive : 0 < |toRat right| := abs_pos.mpr nonzero
  rw [abs_div, le_div_iff₀ positive]
  calc (2 : ℚ) ^ (-(power + more)) * |toRat right| ≤ 2 ^ (-(power + more)) * 2 ^ more :=
        mul_le_mul_of_nonneg_left rightSize.le (two_zpow_pos _).le
    _ ≤ |toRat left| := by
        rw [← two_zpow_add]
        exact (two_zpow_le (by omega)).trans (leftSize.ge leftNonzero)

theorem OfSize.div (least : -971 ≤ power + more) (greatest : power + more ≤ 971) :
    OfSize (power + more) (left / right) := by
  apply (isRounded_div leftSize.finite rightSize.finite nonzero).ofSize
  · exact OfSize.abs_div_le leftSize.toWithin rightSize nonzero
  · intro quotient
    apply OfSize.le_abs_div leftSize rightSize nonzero
    intro zero
    rw [zero, zero_div] at quotient
    exact quotient rfl
  · exact least
  · exact greatest

theorem OfSize.div_pos_iff (positive : 0 < toRat right) (least : -971 ≤ power + more)
    (greatest : power + more ≤ 971) : 0 < toRat (left / right) ↔ 0 < toRat left := by
  have rounded := isRounded_div leftSize.finite rightSize.finite nonzero
  constructor
  · intro quotient
    by_contra le
    have nonpositive := rounded.toRat_nonpos
      (div_nonpos_of_nonpos_of_nonneg (not_lt.mp le) positive.le)
    linarith
  · intro leftPositive
    have size := OfSize.div leftSize rightSize nonzero least greatest
    exact rounded.toRat_pos size.finite (div_pos leftPositive positive) (by omega) (by omega)
      (OfSize.le_abs_div leftSize rightSize nonzero leftPositive.ne')

end Quotients

/-! ## Sums -/

/-- A number of this size does not move a sum that has come to the bound. -/
theorem exists_rounds_stagnant (least : -1074 ≤ power) (greatest : power ≤ 917) :
    ∃ bits < infinityBits, Rounds (2 ^ (54 + power) + 2 ^ power) bits ∧
      magnitude bits = 2 ^ (54 + power) := by
  have quarter : ((2 : ℚ) ^ (54 + power) + 2 ^ power) / 2 ^ (power + 2) = (2 ^ 52 : ℕ) + 1 / 4 := by
    rw [two_zpow_add, two_zpow_add]
    have := (two_zpow_pos power).ne'
    field_simp
    norm_num
  have place : LastPlace ((2 : ℚ) ^ (54 + power) + 2 ^ power) (power + 2) := by
    refine ⟨by omega, ?_, .inl ?_⟩
    · rw [show 53 + (power + 2) = 54 + power + 1 by omega, two_zpow_succ]
      have less : (2 : ℚ) ^ power < 2 ^ (54 + power) := zpow_lt_zpow_right₀ (by norm_num) (by omega)
      linarith
    · rw [show 52 + (power + 2) = 54 + power by omega]
      linarith [two_zpow_pos power]
  have nearest : IsNearestEven (((2 : ℚ) ^ (54 + power) + 2 ^ power) / 2 ^ (power + 2)) (2 ^ 52) := by
    rw [quarter]
    exact .of_below_half (by linarith) (by linarith)
  have carried : magnitude ((power + 2 + 1074).toNat * leadingBit + 2 ^ 52) =
      (2 ^ 52 : ℕ) * 2 ^ (power + 2) :=
    magnitude_carry place.le_unit (.inl le_rfl) (by decide)
  have small : (power + 2 + 1074).toNat * leadingBit + 2 ^ 52 < infinityBits := by
    have leading : leadingBit = 2 ^ 52 := rfl
    have infinite : infinityBits = 2047 * 2 ^ 52 := rfl
    rw [leading, infinite]
    omega
  have rounds := Rounds.intro place nearest
  rw [Nat.min_eq_left small.le] at rounds
  refine ⟨_, small, rounds, ?_⟩
  rw [carried, show 54 + power = 52 + (power + 2) by omega, two_zpow_add 52]
  norm_num

theorem Within.add (totalWithin : Within (54 + power) total) (within : Within power value)
    (least : -1074 ≤ power) (greatest : power ≤ 917) : Within (54 + power) (total + value) := by
  have rounded := isRounded_add totalWithin.finite within.finite
  rcases exists_rounds_stagnant least greatest with ⟨bits, finite, rounds, equal⟩
  have bound : |toRat total + toRat value| ≤ 2 ^ (54 + power) + 2 ^ power :=
    (abs_add_le _ _).trans (add_le_add totalWithin.le within.le)
  have ordered := rounded.rounds.mono rounds bound
  constructor
  · rw [isFinite_eq, decide_eq_true_eq]
    exact lt_of_le_of_lt ordered finite
  · rw [abs_toRat, ← equal]
    exact magnitude_le finite.le ordered

theorem Within.foldl_add {values : List Float} (each : ∀ value ∈ values, Within power value)
    (start : Within (54 + power) total) (least : -1074 ≤ power) (greatest : power ≤ 917) :
    Within (54 + power) (values.foldl (· + ·) total) := by
  induction values generalizing total with
  | nil => exact start
  | cons first rest induction =>
      rcases List.forall_mem_cons.mp each with ⟨within, later⟩
      exact induction later (start.add within least greatest)

theorem OfSize.foldl_add {values : List Float}
    (each : ∀ value ∈ values, OfSize power value ∧ 0 ≤ toRat value)
    (start : OfSize (54 + power) total ∧ 0 ≤ toRat total) (least : 0 ≤ power)
    (greatest : power ≤ 917) :
    OfSize (54 + power) (values.foldl (· + ·) total) := by
  induction values generalizing total with
  | nil => exact start.1
  | cons first rest induction =>
      rcases List.forall_mem_cons.mp each with ⟨⟨size, nonneg⟩, later⟩
      rcases start with ⟨totalSize, totalNonneg⟩
      have rounded := isRounded_add totalSize.finite size.finite
      have within := totalSize.toWithin.add size.toWithin (by omega) greatest
      refine induction later ⟨⟨within, fun nonzero => ?_⟩, rounded.toRat_nonneg (by linarith)⟩
      have exact_ge : 2 ^ (-(54 + power)) ≤ |toRat total + toRat first| := by
        rw [abs_of_nonneg (by linarith)]
        by_cases vanishes : toRat total = 0
        · have moved : toRat first ≠ 0 := by
            intro zero
            rw [vanishes, zero, add_zero] at rounded
            exact nonzero rounded.toRat_eq_zero
          have above := size.ge moved
          have weaker : (2 : ℚ) ^ (-(54 + power)) ≤ 2 ^ (-power) := two_zpow_le (by omega)
          rw [abs_of_nonneg nonneg] at above
          linarith
        · have above := totalSize.ge vanishes
          rw [abs_of_nonneg totalNonneg] at above
          linarith
      rw [← abs_two_zpow (-(54 + power))] at exact_ge ⊢
      exact rounded.le_abs within.finite (representable_two_zpow (by omega) (by omega)) exact_ge

end SignalReplay.Binary64
