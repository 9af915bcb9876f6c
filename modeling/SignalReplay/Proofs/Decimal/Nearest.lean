import SignalReplay.Decimal.Shortest
import SignalReplay.Proofs.Binary64.Fields

/-!
Rounding depends on the value of a quotient alone. The nearest pattern does not change when both
sides of the quotient are scaled, so a numeral may take its zeros from the digits or from the
exponent, and the quotient that a finite pattern stands for exactly is rounded to that pattern.
-/

namespace SignalReplay.Binary64

/-! ## Powers of two below a quotient -/

def PowerWithin (numerator denominator : Nat) (power : Int) : Prop :=
  denominator * 2 ^ power.toNat ≤ numerator * 2 ^ (-power).toNat

instance (numerator denominator : Nat) (power : Int) :
    Decidable (PowerWithin numerator denominator power) :=
  inferInstanceAs (Decidable (_ ≤ _))

theorem powerWithin_iff {numerator denominator : Nat} {power : Int} (up down : Nat)
    (split : power = (up : Int) - down) :
    PowerWithin numerator denominator power ↔
      denominator * 2 ^ up ≤ numerator * 2 ^ down := by
  have common : ∃ shared, up = power.toNat + shared ∧ down = (-power).toNat + shared :=
    ⟨min up down, by omega, by omega⟩
  rcases common with ⟨shared, upper, lower⟩
  rw [PowerWithin, upper, lower, Nat.pow_add, Nat.pow_add, ← Nat.mul_assoc, ← Nat.mul_assoc]
  exact (Nat.mul_le_mul_right_iff (Nat.two_pow_pos shared)).symm

theorem PowerWithin.of_le {numerator denominator : Nat} {less more : Int} (le : less ≤ more)
    (within : PowerWithin numerator denominator more) :
    PowerWithin numerator denominator less := by
  have split : less = ((more.toNat : Nat) : Int) - (((-more).toNat + (more - less).toNat : Nat)) := by
    omega
  rw [powerWithin_iff _ _ split, Nat.pow_add, ← Nat.mul_assoc]
  exact Nat.le_trans within (Nat.le_mul_of_pos_right _ (Nat.two_pow_pos _))

theorem powerWithin_scale {numerator denominator factor : Nat} (positive : 0 < factor)
    (power : Int) :
    PowerWithin (factor * numerator) (factor * denominator) power ↔
      PowerWithin numerator denominator power := by
  rw [PowerWithin, PowerWithin, Nat.mul_assoc, Nat.mul_assoc]
  exact Nat.mul_le_mul_left_iff positive

/-! ## The unit -/

/-- `unit` is the exponent at which the quotient takes exactly 53 digits. -/
structure IsUnit (numerator denominator : Nat) (unit : Int) : Prop where
  within : PowerWithin numerator denominator (52 + unit)
  beyond : ¬ PowerWithin numerator denominator (53 + unit)

theorem IsUnit.unique {numerator denominator : Nat} {left right : Int}
    (first : IsUnit numerator denominator left) (second : IsUnit numerator denominator right) :
    left = right := by
  have notLess : ¬ left < right := by
    intro less
    exact first.beyond (second.within.of_le (by omega))
  have notMore : ¬ right < left := by
    intro more
    exact second.beyond (first.within.of_le (by omega))
  omega

theorem isUnit_unitExponent {numerator denominator : Nat} (numerator_pos : 0 < numerator)
    (denominator_pos : 0 < denominator) :
    IsUnit numerator denominator (unitExponent numerator denominator) := by
  have numeratorLow : 2 ^ numerator.log2 ≤ numerator := Nat.log2_self_le (by omega)
  have numeratorHigh : numerator < 2 ^ (numerator.log2 + 1) := Nat.lt_log2_self
  have denominatorLow : 2 ^ denominator.log2 ≤ denominator := Nat.log2_self_le (by omega)
  have denominatorHigh : denominator < 2 ^ (denominator.log2 + 1) := Nat.lt_log2_self
  -- The quotient lies between the powers one below and one above the difference of the lengths.
  have below : PowerWithin numerator denominator
      ((numerator.log2 : Int) - denominator.log2 - 1) := by
    rw [powerWithin_iff numerator.log2 (denominator.log2 + 1) (by omega)]
    calc denominator * 2 ^ numerator.log2
        ≤ 2 ^ (denominator.log2 + 1) * 2 ^ numerator.log2 :=
          Nat.mul_le_mul_right _ (Nat.le_of_lt denominatorHigh)
      _ = 2 ^ numerator.log2 * 2 ^ (denominator.log2 + 1) := Nat.mul_comm _ _
      _ ≤ numerator * 2 ^ (denominator.log2 + 1) := Nat.mul_le_mul_right _ numeratorLow
  have above : ¬ PowerWithin numerator denominator
      ((numerator.log2 : Int) - denominator.log2 + 1) := by
    rw [powerWithin_iff (numerator.log2 + 1) denominator.log2 (by omega),
      Nat.not_le]
    calc numerator * 2 ^ denominator.log2
        < 2 ^ (numerator.log2 + 1) * 2 ^ denominator.log2 :=
          Nat.mul_lt_mul_of_pos_right numeratorHigh (Nat.two_pow_pos _)
      _ = 2 ^ denominator.log2 * 2 ^ (numerator.log2 + 1) := Nat.mul_comm _ _
      _ ≤ denominator * 2 ^ (numerator.log2 + 1) := Nat.mul_le_mul_right _ denominatorLow
  rw [unitExponent]
  simp only [Nat.pow_eq]
  split
  · next fits =>
    constructor
    · exact fits
    · rw [show (53 : Int) + ((numerator.log2 : Int) - denominator.log2 - 52) =
        (numerator.log2 : Int) - denominator.log2 + 1 by omega]
      exact above
  · next fails =>
    constructor
    · rw [show (52 : Int) + ((numerator.log2 : Int) - denominator.log2 - 52 - 1) =
        (numerator.log2 : Int) - denominator.log2 - 1 by omega]
      exact below
    · rw [show (53 : Int) + ((numerator.log2 : Int) - denominator.log2 - 52 - 1) =
        52 + ((numerator.log2 : Int) - denominator.log2 - 52) by omega]
      exact fails

theorem unitExponent_scale {numerator denominator factor : Nat} (numerator_pos : 0 < numerator)
    (denominator_pos : 0 < denominator) (factor_pos : 0 < factor) :
    unitExponent (factor * numerator) (factor * denominator) =
      unitExponent numerator denominator := by
  have scaled := isUnit_unitExponent (Nat.mul_pos factor_pos numerator_pos)
    (Nat.mul_pos factor_pos denominator_pos)
  have plain := isUnit_unitExponent numerator_pos denominator_pos
  apply IsUnit.unique scaled
  constructor
  · exact (powerWithin_scale factor_pos _).mpr plain.within
  · intro within
    exact plain.beyond ((powerWithin_scale factor_pos _).mp within)

theorem unitExponent_lt {numerator denominator : Nat} {power : Int}
    (numerator_pos : 0 < numerator) (denominator_pos : 0 < denominator)
    (beyond : ¬ PowerWithin numerator denominator (52 + power)) :
    unitExponent numerator denominator < power := by
  have unit := isUnit_unitExponent numerator_pos denominator_pos
  apply Int.not_le.mp
  intro le
  exact beyond (unit.within.of_le (by omega))

theorem le_unitExponent {numerator denominator : Nat} {power : Int}
    (numerator_pos : 0 < numerator) (denominator_pos : 0 < denominator)
    (within : PowerWithin numerator denominator (52 + power)) :
    power ≤ unitExponent numerator denominator := by
  have unit := isUnit_unitExponent numerator_pos denominator_pos
  apply Int.not_lt.mp
  intro less
  exact unit.beyond (within.of_le (by omega))

/-! ## Rounding -/

theorem divideToEven_scale {numerator denominator factor : Nat} (positive : 0 < factor) :
    divideToEven (factor * numerator) (factor * denominator) =
      divideToEven numerator denominator := by
  have remainders : compare (2 * (factor * numerator % (factor * denominator)))
      (factor * denominator) = compare (2 * (numerator % denominator)) denominator := by
    rw [Nat.mul_mod_mul_left, Nat.mul_left_comm]
    simp only [Nat.compare_eq_ite_lt, Nat.mul_lt_mul_left positive]
  rw [divideToEven, divideToEven, remainders, Nat.mul_div_mul_left _ _ positive]

theorem divideToEven_exact {whole denominator : Nat} (positive : 0 < denominator) :
    divideToEven (whole * denominator) denominator = whole := by
  have remainder : compare (2 * (whole * denominator % denominator)) denominator = .lt := by
    rw [Nat.mul_mod_left]
    exact Nat.compare_eq_lt.mpr positive
  rw [divideToEven, remainder, Nat.mul_div_cancel _ positive]

theorem divideToEven_small {numerator denominator : Nat} (small : 2 * numerator < denominator) :
    divideToEven numerator denominator = 0 := by
  have remainder : compare (2 * (numerator % denominator)) denominator = .lt := by
    rw [Nat.mod_eq_of_lt (by omega)]
    exact Nat.compare_eq_lt.mpr small
  rw [divideToEven, remainder, Nat.div_eq_of_lt (by omega)]

@[simp]
theorem nearest_zero (denominator : Nat) : nearest 0 denominator = 0 := by
  rw [nearest, if_pos rfl]

theorem nearest_scale {numerator denominator factor : Nat} (denominator_pos : 0 < denominator)
    (factor_pos : 0 < factor) :
    nearest (factor * numerator) (factor * denominator) = nearest numerator denominator := by
  by_cases zero : numerator = 0
  · rw [zero, Nat.mul_zero, nearest_zero, nearest_zero]
  · have numerator_pos : 0 < numerator := Nat.pos_of_ne_zero zero
    have product_pos : 0 < factor * numerator := Nat.mul_pos factor_pos numerator_pos
    rw [nearest, nearest, if_neg zero, if_neg (Nat.ne_of_gt product_pos),
      unitExponent_scale numerator_pos denominator_pos factor_pos]
    simp only [Nat.mul_assoc, divideToEven_scale factor_pos]

theorem nearest_eq_of_quotient {leftNumerator leftDenominator rightNumerator rightDenominator : Nat}
    (left_pos : 0 < leftDenominator) (right_pos : 0 < rightDenominator)
    (equal : leftNumerator * rightDenominator = rightNumerator * leftDenominator) :
    nearest leftNumerator leftDenominator = nearest rightNumerator rightDenominator := by
  rw [← nearest_scale left_pos right_pos, ← nearest_scale right_pos left_pos,
    Nat.mul_comm rightDenominator leftNumerator, Nat.mul_comm leftDenominator rightNumerator,
    equal, Nat.mul_comm rightDenominator leftDenominator]

theorem nearest_exact {bits : Nat} (positive : 0 < bits) (finite : bits < infinityBits) :
    nearest (significand bits * 2 ^ (exponent bits).toNat) (2 ^ (-exponent bits).toNat) =
      bits := by
  have mantissa_pos := significand_pos positive
  have canonical := @canonical_fields bits
  have restored := @exponent_significand_eq bits
  generalize significand bits = mantissa at *
  generalize exponent bits = power at *
  have numerator_pos : 0 < mantissa * 2 ^ power.toNat :=
    Nat.mul_pos mantissa_pos (Nat.two_pow_pos _)
  have denominator_pos : 0 < 2 ^ (-power).toNat := Nat.two_pow_pos _
  -- Both the unit and the bound on units below are those of the pattern itself.
  have unit : max (unitExponent (mantissa * 2 ^ power.toNat) (2 ^ (-power).toNat)) (-1074) =
      power := by
    have short : ¬ PowerWithin (mantissa * 2 ^ power.toNat) (2 ^ (-power).toNat)
        (52 + (power + 1)) := by
      rw [powerWithin_iff (53 + power.toNat) (-power).toNat (by omega),
        Nat.not_le, Nat.pow_add, Nat.mul_comm]
      have bound := Nat.mul_lt_mul_of_pos_right canonical.mantissa_lt (Nat.two_pow_pos power.toNat)
      exact Nat.mul_lt_mul_of_pos_left bound denominator_pos
    have upper := unitExponent_lt numerator_pos denominator_pos short
    have least := canonical.le_exponent
    rcases canonical.full_or_least with full | atLeast
    · have long : PowerWithin (mantissa * 2 ^ power.toNat) (2 ^ (-power).toNat) (52 + power) := by
        rw [powerWithin_iff (52 + power.toNat) (-power).toNat (by omega),
          Nat.pow_add, Nat.mul_comm]
        exact Nat.mul_le_mul_right _ (Nat.mul_le_mul_right _ full)
      have lower := le_unitExponent numerator_pos denominator_pos long
      omega
    · omega
  have product : mantissa * 2 ^ power.toNat * 2 ^ (-power).toNat =
      mantissa * (2 ^ (-power).toNat * 2 ^ power.toNat) := by
    rw [Nat.mul_assoc, Nat.mul_comm (2 ^ power.toNat)]
  rw [nearest, if_neg (Nat.ne_of_gt numerator_pos)]
  dsimp only
  rw [unit, Nat.pow_eq, Nat.pow_eq, product,
    divideToEven_exact (Nat.mul_pos denominator_pos (Nat.two_pow_pos _)), restored,
    Nat.min_eq_left (Nat.le_of_lt finite)]

theorem nearest_of_powerWithin {numerator denominator : Nat} (numerator_pos : 0 < numerator)
    (denominator_pos : 0 < denominator) (great : PowerWithin numerator denominator 1025) :
    nearest numerator denominator = infinityBits := by
  have unit := @le_unitExponent numerator denominator 973 numerator_pos denominator_pos great
  rw [nearest, if_neg (Nat.ne_of_gt numerator_pos)]
  apply Nat.min_eq_right
  have scaled : 2047 * leadingBit ≤
      (max (unitExponent numerator denominator) (-1074) + 1074).toNat * leadingBit :=
    Nat.mul_le_mul_right _ (by omega)
  exact Nat.le_trans scaled (Nat.le_add_right _ _)

theorem nearest_of_not_powerWithin {numerator denominator : Nat}
    (denominator_pos : 0 < denominator) (small : ¬ PowerWithin numerator denominator (-1075)) :
    nearest numerator denominator = 0 := by
  by_cases zero : numerator = 0
  · rw [zero, nearest_zero]
  · have numerator_pos : 0 < numerator := Nat.pos_of_ne_zero zero
    have beyond : ¬ PowerWithin numerator denominator (52 + -1074) := by
      intro within
      exact small (within.of_le (by decide))
    have unit : max (unitExponent numerator denominator) (-1074) = -1074 :=
      Int.max_eq_right (Int.le_of_lt (unitExponent_lt numerator_pos denominator_pos beyond))
    rw [nearest, if_neg zero]
    generalize max (unitExponent numerator denominator) (-1074) = least at unit
    rw [powerWithin_iff 0 ((-least).toNat + 1) (by omega), Nat.not_le, Nat.pow_zero, Nat.mul_one]
      at small
    have whole : least.toNat = 0 := by omega
    have rounded : divideToEven (numerator * 2 ^ (-least).toNat) (denominator * 2 ^ least.toNat) =
        0 := by
      apply divideToEven_small
      rw [whole, Nat.pow_zero, Nat.mul_one, Nat.mul_left_comm, Nat.mul_comm 2, ← Nat.pow_succ]
      exact small
    simp only [Nat.pow_eq, rounded]
    rw [unit]
    rfl

end SignalReplay.Binary64

namespace SignalReplay.Decimal

open Binary64

/-! ## Numerals -/

/-- The shortcuts for great and for small exponents change no result. -/
theorem nearestBits_eq_nearest (digits : Nat) (exponent : Int) :
    nearestBits digits exponent =
      nearest (digits * 10 ^ exponent.toNat) (10 ^ (-exponent).toNat) := by
  have power_of_eight (power : Nat) : 2 ^ (3 * power) ≤ 10 ^ power := by
    rw [Nat.pow_mul]
    exact Nat.pow_le_pow_left (by decide) power
  have tens_pos (power : Nat) : 0 < 10 ^ power := Nat.pow_pos (by decide)
  rw [nearestBits]
  by_cases zero : digits = 0
  · simp only [zero, if_true, Nat.zero_mul, nearest_zero, ite_self]
  · have digits_pos : 0 < digits := Nat.pos_of_ne_zero zero
    by_cases great : exponent > 400
    · have whole : (-exponent).toNat = 0 := by omega
      rw [if_pos great, if_neg zero]
      apply Eq.symm
      apply nearest_of_powerWithin (Nat.mul_pos digits_pos (tens_pos _)) (tens_pos _)
      apply PowerWithin.of_le (show (1025 : Int) ≤ (3 * exponent.toNat : Nat) by omega)
      rw [powerWithin_iff (3 * exponent.toNat) 0 (by omega), whole]
      simp only [Nat.pow_zero, Nat.one_mul, Nat.mul_one]
      calc 2 ^ (3 * exponent.toNat)
          ≤ 10 ^ exponent.toNat := power_of_eight _
        _ ≤ digits * 10 ^ exponent.toNat := Nat.le_mul_of_pos_left _ digits_pos
    · rw [if_neg great]
      by_cases small : 3 * exponent + digits.log2 + 1 < -1080
      · have fraction : exponent.toNat = 0 := by omega
        rw [if_pos small]
        apply Eq.symm
        apply nearest_of_not_powerWithin (tens_pos _)
        have shifted : ∃ shift : Nat, (-1075 : Int) = (0 : Nat) - (shift : Int) ∧ shift = 1075 :=
          ⟨1075, by decide, rfl⟩
        rcases shifted with ⟨shift, equal, bound⟩
        rw [powerWithin_iff 0 shift equal, Nat.not_le, fraction]
        simp only [Nat.pow_zero, Nat.mul_one]
        calc digits * 2 ^ shift
            < 2 ^ (digits.log2 + 1) * 2 ^ shift :=
              Nat.mul_lt_mul_of_pos_right Nat.lt_log2_self (Nat.two_pow_pos _)
          _ = 2 ^ (digits.log2 + 1 + shift) := (Nat.pow_add _ _ _).symm
          _ ≤ 2 ^ (3 * (-exponent).toNat) := Nat.pow_le_pow_right (by decide) (by omega)
          _ ≤ 10 ^ (-exponent).toNat := power_of_eight _
      · rw [if_neg small, Nat.pow_eq, Nat.pow_eq]

theorem nearestBits_shift (digits zeros : Nat) (exponent : Int) :
    nearestBits (digits * 10 ^ zeros) exponent = nearestBits digits (exponent + zeros) := by
  have tens_pos (power : Nat) : 0 < 10 ^ power := Nat.pow_pos (by decide)
  rw [nearestBits_eq_nearest, nearestBits_eq_nearest]
  apply nearest_eq_of_quotient (tens_pos _) (tens_pos _)
  rw [Nat.mul_assoc digits, Nat.mul_assoc digits, Nat.mul_assoc digits, ← Nat.pow_add,
    ← Nat.pow_add, ← Nat.pow_add]
  congr 2
  omega

theorem nearestBits_exactDigits {bits : Nat} (positive : 0 < bits) (finite : bits < infinityBits) :
    nearestBits (exactDigits bits).1 (exactDigits bits).2 = bits := by
  rw [nearestBits_eq_nearest, exactDigits]
  simp only [Nat.pow_eq]
  refine Eq.trans ?_ (nearest_exact positive finite)
  apply nearest_eq_of_quotient (Nat.pow_pos (by decide)) (Nat.two_pow_pos _)
  generalize Binary64.exponent bits = power
  have whole : (min power 0).toNat = 0 := by omega
  have fraction : (-min power 0).toNat = (-power).toNat := by omega
  have tens : 10 ^ (-power).toNat = 5 ^ (-power).toNat * 2 ^ (-power).toNat :=
    Nat.mul_pow 5 2 _
  rw [whole, fraction, tens, Nat.pow_zero, Nat.mul_one, Nat.mul_assoc]

end SignalReplay.Decimal
