import SignalReplay.Proofs.Decimal.Nearest

/-!
Rounding as a relation between a number and a pattern. A number is rounded to a whole count of the
last place that the format keeps of it. Rounding keeps the order of numbers and leaves those alone
that a pattern stands for, so numbers between two patterns are rounded to patterns between them.
-/

namespace SignalReplay.Binary64

/-! ## Whole numbers -/

/-- A whole number nearest to `x`, and the even one if two are equally near. -/
structure IsNearestEven (x : ℚ) (whole : ℕ) : Prop where
  near : |x - whole| ≤ 1 / 2
  even_of_tie : |x - whole| = 1 / 2 → Even whole

namespace IsNearestEven

theorem mono {x y : ℚ} {less more : ℕ} (first : IsNearestEven x less)
    (second : IsNearestEven y more) (le : x ≤ y) : less ≤ more := by
  apply Nat.not_lt.mp
  intro reversed
  have gap : (more : ℚ) + 1 ≤ less := by exact_mod_cast reversed
  have firstNear := abs_le.mp first.near
  have secondNear := abs_le.mp second.near
  -- Neighbours in the wrong order are both halfway from the one number between them.
  have neighbours : less = more + 1 := by
    have close : (less : ℚ) ≤ more + 1 := by linarith
    have closeNat : less ≤ more + 1 := by exact_mod_cast close
    omega
  have cast : (less : ℚ) = more + 1 := by exact_mod_cast neighbours
  have lessEven := first.even_of_tie (by rw [abs_of_nonpos] <;> linarith)
  have moreEven := second.even_of_tie (by rw [abs_of_nonneg] <;> linarith)
  rw [Nat.even_iff] at lessEven moreEven
  omega

theorem unique {x : ℚ} {left right : ℕ} (first : IsNearestEven x left)
    (second : IsNearestEven x right) : left = right :=
  Nat.le_antisymm (first.mono second le_rfl) (second.mono first le_rfl)

theorem of_below_half {x : ℚ} {whole : ℕ} (le : whole ≤ x) (lt : x < whole + 1 / 2) :
    IsNearestEven x whole := by
  have distance : |x - whole| = x - whole := abs_of_nonneg (by linarith)
  constructor
  · rw [distance]
    linarith
  · intro tie
    rw [distance] at tie
    linarith

theorem of_half {x : ℚ} {whole : ℕ} (equal : x = whole + 1 / 2) :
    IsNearestEven x (whole + whole % 2) := by
  have even : Even (whole + whole % 2) := by
    rw [Nat.even_iff]
    omega
  refine ⟨?_, fun _ => even⟩
  rw [equal]
  rcases Nat.mod_two_eq_zero_or_one whole with zero | one
  · rw [zero]
    norm_num
  · rw [one, abs_le]
    push_cast
    constructor <;> linarith

theorem of_above_half {x : ℚ} {whole : ℕ} (lt : whole + 1 / 2 < x) (le : x ≤ whole + 1) :
    IsNearestEven x (whole + 1) := by
  have distance : |x - (whole + 1 : ℕ)| = whole + 1 - x := by
    push_cast
    rw [abs_of_nonpos (by linarith)]
    ring
  constructor
  · rw [distance]
    linarith
  · intro tie
    rw [distance] at tie
    linarith

theorem natCast (whole : ℕ) : IsNearestEven whole whole :=
  of_below_half le_rfl (by linarith)

theorem le_of_lt {x : ℚ} {whole bound : ℕ} (nearest : IsNearestEven x whole) (lt : x < bound) :
    whole ≤ bound :=
  nearest.mono (natCast bound) lt.le

theorem of_le {x : ℚ} {whole bound : ℕ} (nearest : IsNearestEven x whole) (le : bound ≤ x) :
    bound ≤ whole :=
  (natCast bound).mono nearest le

end IsNearestEven

/-! ## Halves -/

section Halves

variable {rest denominator : ℕ} (positive : 0 < denominator)

include positive

theorem div_lt_half_iff : (rest : ℚ) / denominator < 1 / 2 ↔ 2 * rest < denominator := by
  rw [div_lt_div_iff₀ (by exact_mod_cast positive) (by norm_num), mul_comm, one_mul]
  norm_cast

theorem div_eq_half_iff : (rest : ℚ) / denominator = 1 / 2 ↔ 2 * rest = denominator := by
  rw [div_eq_div_iff (by exact_mod_cast positive.ne') (by norm_num), mul_comm, one_mul]
  norm_cast

theorem half_lt_div_iff : 1 / 2 < (rest : ℚ) / denominator ↔ denominator < 2 * rest := by
  rw [div_lt_div_iff₀ (by norm_num) (by exact_mod_cast positive), mul_comm, mul_one, mul_comm]
  norm_cast

end Halves

theorem isNearestEven_divideToEven (numerator : ℕ) {denominator : ℕ} (positive : 0 < denominator) :
    IsNearestEven (numerator / denominator) (divideToEven numerator denominator) := by
  have positiveCast : (0 : ℚ) < denominator := by exact_mod_cast positive
  have parts : (numerator : ℚ) = denominator * (numerator / denominator : ℕ) +
      (numerator % denominator : ℕ) := by
    exact_mod_cast (Nat.div_add_mod numerator denominator).symm
  have quotient : (numerator : ℚ) / denominator = (numerator / denominator : ℕ) +
      ((numerator % denominator : ℕ) : ℚ) / denominator := by
    rw [parts]
    field_simp
  have small : numerator % denominator < denominator := Nat.mod_lt _ positive
  unfold divideToEven
  rw [quotient]
  generalize numerator / denominator = whole
  generalize numerator % denominator = rest at small
  have restNonneg : (0 : ℚ) ≤ (rest : ℚ) / denominator := by positivity
  have restSmall : (rest : ℚ) / denominator < 1 := by
    rw [div_lt_one positiveCast]
    exact_mod_cast small
  rcases lt_trichotomy (2 * rest) denominator with less | equal | more
  · have half := (div_lt_half_iff positive).mpr less
    rw [Nat.compare_eq_lt.mpr less]
    exact .of_below_half (by linarith) (by linarith)
  · have half := (div_eq_half_iff positive).mpr equal
    rw [Nat.compare_eq_eq.mpr equal]
    exact .of_half (by rw [half])
  · have half := (half_lt_div_iff positive).mpr more
    rw [Nat.compare_eq_gt.mpr more]
    exact .of_above_half (by linarith) (by linarith)

/-! ## Powers -/

theorem zpow_eq_mul {base : ℚ} (nonzero : base ≠ 0) {low high : ℤ} (le : low ≤ high) :
    base ^ high = base ^ (high - low).toNat * base ^ low := by
  rw [← zpow_natCast, Int.toNat_of_nonneg (by omega), ← zpow_add₀ nonzero, sub_add_cancel]

theorem zpow_eq_div {base : ℚ} (nonzero : base ≠ 0) (power : ℤ) :
    base ^ power = base ^ power.toNat / base ^ (-power).toNat := by
  rw [eq_div_iff (pow_ne_zero _ nonzero), ← zpow_natCast, ← zpow_natCast, ← zpow_add₀ nonzero]
  congr 1
  omega

theorem two_zpow_pos (power : ℤ) : (0 : ℚ) < 2 ^ power :=
  zpow_pos (by norm_num) power

theorem two_zpow_le {less more : ℤ} (le : less ≤ more) : (2 : ℚ) ^ less ≤ 2 ^ more :=
  zpow_le_zpow_right₀ (by norm_num) le

theorem two_zpow_add (left right : ℤ) : (2 : ℚ) ^ (left + right) = 2 ^ left * 2 ^ right :=
  zpow_add₀ (by norm_num) left right

/-! ## Patterns -/

def magnitude (bits : ℕ) : ℚ :=
  significand bits * 2 ^ exponent bits

@[simp]
theorem magnitude_zero : magnitude 0 = 0 := by
  simp [magnitude, significand, leadingBit]

theorem magnitude_nonneg (bits : ℕ) : 0 ≤ magnitude bits :=
  mul_nonneg (Nat.cast_nonneg _) (two_zpow_pos _).le

theorem magnitude_pos {bits : ℕ} (positive : 0 < bits) : 0 < magnitude bits :=
  mul_pos (by exact_mod_cast significand_pos positive) (two_zpow_pos _)

/-- The exponent of the last place that the format keeps of a number. -/
structure LastPlace (x : ℚ) (unit : ℤ) : Prop where
  le_unit : -1074 ≤ unit
  lt : x < 2 ^ (53 + unit)
  full_or_least : 2 ^ (52 + unit) ≤ x ∨ unit = -1074

/-- A number is rounded to a pattern: the count of its last places, carried into the exponent if
it takes one digit too many, and infinity if it is too great. -/
inductive Rounds (x : ℚ) : ℕ → Prop
  | intro {unit : ℤ} {count : ℕ} (place : LastPlace x unit)
    (nearest : IsNearestEven (x / 2 ^ unit) count) :
    Rounds x (min ((unit + 1074).toNat * leadingBit + count) infinityBits)

theorem LastPlace.count_le {x : ℚ} {unit : ℤ} {count : ℕ} (place : LastPlace x unit)
    (nearest : IsNearestEven (x / 2 ^ unit) count) : count ≤ 2 ^ 53 := by
  apply nearest.le_of_lt
  rw [div_lt_iff₀ (two_zpow_pos unit)]
  have below := place.lt
  rw [two_zpow_add] at below
  exact_mod_cast below

theorem LastPlace.le_count {x : ℚ} {unit : ℤ} {count : ℕ} (full : 2 ^ (52 + unit) ≤ x)
    (nearest : IsNearestEven (x / 2 ^ unit) count) : 2 ^ 52 ≤ count := by
  apply nearest.of_le
  rw [le_div_iff₀ (two_zpow_pos unit)]
  rw [two_zpow_add] at full
  exact_mod_cast full

theorem Rounds.le_infinityBits {x : ℚ} {bits : ℕ} (rounds : Rounds x bits) :
    bits ≤ infinityBits := by
  cases rounds
  exact Nat.min_le_right _ _

theorem Rounds.mono {x y : ℚ} {less more : ℕ} (first : Rounds x less) (second : Rounds y more)
    (le : x ≤ y) : less ≤ more := by
  rcases first with @⟨unit, count, place, nearest⟩
  rcases second with @⟨otherUnit, otherCount, otherPlace, otherNearest⟩
  apply min_le_min_right
  have leading : leadingBit = 2 ^ 52 := rfl
  rcases lt_trichotomy unit otherUnit with lower | rfl | higher
  · -- The lesser number fills at most the places below, and the greater one begins above them.
    have full : (2 : ℚ) ^ (52 + otherUnit) ≤ y := by
      have least := place.le_unit
      rcases otherPlace.full_or_least with full | atLeast
      · exact full
      · omega
    have count_le := place.count_le nearest
    have le_count := LastPlace.le_count full otherNearest
    have least := place.le_unit
    have units : (unit + 1074).toNat + 1 ≤ (otherUnit + 1074).toNat := by omega
    have scaled := Nat.mul_le_mul_right leadingBit units
    rw [Nat.add_mul, Nat.one_mul] at scaled
    omega
  · have counts := nearest.mono otherNearest
      (div_le_div_of_nonneg_right le (two_zpow_pos unit).le)
    omega
  · have full : (2 : ℚ) ^ (52 + unit) ≤ x := by
      have least := otherPlace.le_unit
      rcases place.full_or_least with full | atLeast
      · exact full
      · omega
    have below : y < x :=
      calc y < 2 ^ (53 + otherUnit) := otherPlace.lt
        _ ≤ 2 ^ (52 + unit) := two_zpow_le (by omega)
        _ ≤ x := full
    exact absurd le below.not_ge

theorem Rounds.unique {x : ℚ} {left right : ℕ} (first : Rounds x left) (second : Rounds x right) :
    left = right :=
  Nat.le_antisymm (first.mono second le_rfl) (second.mono first le_rfl)

/-! ## Quotients -/

theorem powerWithin_iff_le {numerator denominator : ℕ} (positive : 0 < denominator) (power : ℤ) :
    PowerWithin numerator denominator power ↔ (2 : ℚ) ^ power ≤ numerator / denominator := by
  have positiveCast : (0 : ℚ) < denominator := by exact_mod_cast positive
  rw [zpow_eq_div two_ne_zero, div_le_div_iff₀ (by positivity) positiveCast, PowerWithin,
    mul_comm denominator]
  norm_cast

theorem rounds_nearest (numerator : ℕ) {denominator : ℕ} (positive : 0 < denominator) :
    Rounds (numerator / denominator) (nearest numerator denominator) := by
  have positiveCast : (0 : ℚ) < denominator := by exact_mod_cast positive
  by_cases zero : numerator = 0
  · subst zero
    have place : LastPlace ((0 : ℕ) / denominator : ℚ) (-1074) := by
      refine ⟨le_rfl, ?_, .inr rfl⟩
      rw [Nat.cast_zero, zero_div]
      exact two_zpow_pos _
    have nearestZero : IsNearestEven ((0 : ℕ) / denominator / 2 ^ (-1074 : ℤ) : ℚ) 0 := by
      rw [Nat.cast_zero, zero_div, zero_div]
      exact_mod_cast IsNearestEven.natCast 0
    rw [nearest_zero]
    exact Rounds.intro place nearestZero
  · have unit := isUnit_unitExponent (Nat.pos_of_ne_zero zero) positive
    rw [nearest, if_neg zero]
    have within := (powerWithin_iff_le positive _).mp unit.within
    have beyond := mt (powerWithin_iff_le positive _).mpr unit.beyond
    rw [not_le] at beyond
    generalize unitExponent numerator denominator = least at within beyond ⊢
    have place : LastPlace (numerator / denominator : ℚ) (max least (-1074)) := by
      refine ⟨by omega, lt_of_lt_of_le beyond (two_zpow_le (by omega)), ?_⟩
      rcases le_total (-1074) least with above | below
      · exact .inl (by rwa [max_eq_left above])
      · exact .inr (max_eq_right below)
    generalize max least (-1074) = unit at place ⊢
    have scaled : (numerator / denominator / 2 ^ unit : ℚ) =
        (numerator * 2 ^ (-unit).toNat : ℕ) / (denominator * 2 ^ unit.toNat : ℕ) := by
      push_cast
      rw [zpow_eq_div two_ne_zero]
      field_simp
    have nearestEven := isNearestEven_divideToEven (numerator * 2 ^ (-unit).toNat)
      (Nat.mul_pos positive (Nat.two_pow_pos unit.toNat))
    rw [← scaled] at nearestEven
    simp only [Nat.pow_eq]
    exact Rounds.intro place nearestEven

theorem exists_rounds {x : ℚ} (nonnegative : 0 ≤ x) : ∃ bits, Rounds x bits := by
  have quotient : x = (x.num.natAbs : ℚ) / x.den := by
    rw [Nat.cast_natAbs, abs_of_nonneg (Rat.num_nonneg.mpr nonnegative)]
    exact (Rat.num_div_den x).symm
  rw [quotient]
  exact ⟨_, rounds_nearest x.num.natAbs x.den_pos⟩

/-! ## Numbers that a pattern stands for -/

theorem magnitude_carry {unit : ℤ} {count : ℕ} (least : -1074 ≤ unit)
    (full_or_least : 2 ^ 52 ≤ count ∨ unit = -1074) (fits : count ≤ 2 ^ 53) :
    magnitude ((unit + 1074).toNat * leadingBit + count) = count * 2 ^ unit := by
  have leading : leadingBit = 2 ^ 52 := rfl
  by_cases carries : count = 2 ^ 53
  · have significandValue :
        significand ((unit + 1074).toNat * leadingBit + count) = 2 ^ 52 := by
      unfold significand
      rw [leading, if_neg (by omega)]
      omega
    have exponentValue : exponent ((unit + 1074).toNat * leadingBit + count) = unit + 1 := by
      unfold exponent
      rw [leading]
      omega
    rw [magnitude, significandValue, exponentValue, carries, two_zpow_add, zpow_one]
    push_cast
    ring
  · have significandValue :
        significand ((unit + 1074).toNat * leadingBit + count) = count := by
      unfold significand
      rw [leading]
      split <;> omega
    have exponentValue : exponent ((unit + 1074).toNat * leadingBit + count) = unit := by
      unfold exponent
      rw [leading]
      omega
    rw [magnitude, significandValue, exponentValue]

theorem lastPlace_magnitude (bits : ℕ) : LastPlace (magnitude bits) (exponent bits) := by
  have canonical := @canonical_fields bits
  refine ⟨canonical.le_exponent, ?_, ?_⟩
  · rw [magnitude, two_zpow_add]
    have bound : (significand bits : ℚ) < 2 ^ (53 : ℤ) := by exact_mod_cast canonical.mantissa_lt
    exact mul_lt_mul_of_pos_right bound (two_zpow_pos _)
  · rcases canonical.full_or_least with full | least
    · refine .inl ?_
      rw [magnitude, two_zpow_add]
      have bound : (2 : ℚ) ^ (52 : ℤ) ≤ significand bits := by exact_mod_cast full
      exact mul_le_mul_of_nonneg_right bound (two_zpow_pos _).le
    · exact .inr least

theorem rounds_magnitude {bits : ℕ} (finite : bits ≤ infinityBits) :
    Rounds (magnitude bits) bits := by
  have nearest : IsNearestEven (magnitude bits / 2 ^ exponent bits) (significand bits) := by
    rw [magnitude, mul_div_cancel_right₀ _ (two_zpow_pos _).ne']
    exact IsNearestEven.natCast _
  have rounds := Rounds.intro (lastPlace_magnitude bits) nearest
  rwa [exponent_significand_eq, Nat.min_eq_left finite] at rounds

/-- Between numbers that are rounded to one pattern all others are, too. -/
theorem Rounds.between {low x high : ℚ} {bits : ℕ} (first : Rounds low bits)
    (last : Rounds high bits) (nonnegative : 0 ≤ low) (above : low ≤ x) (below : x ≤ high) :
    Rounds x bits := by
  rcases exists_rounds (nonnegative.trans above) with ⟨found, rounds⟩
  have equal : found = bits := Nat.le_antisymm (rounds.mono last below) (first.mono rounds above)
  rwa [equal] at rounds

theorem magnitude_lt {less more : ℕ} (finite : more ≤ infinityBits) (lt : less < more) :
    magnitude less < magnitude more := by
  rw [← not_le]
  intro le
  have reversed := (rounds_magnitude finite).mono (rounds_magnitude (by omega)) le
  omega

theorem magnitude_le {less more : ℕ} (finite : more ≤ infinityBits) (le : less ≤ more) :
    magnitude less ≤ magnitude more := by
  rcases Nat.lt_or_eq_of_le le with lt | rfl
  · exact (magnitude_lt finite lt).le
  · exact le_rfl

theorem Rounds.exists_place {x : ℚ} {bits : ℕ} (rounds : Rounds x bits)
    (finite : bits < infinityBits) :
    ∃ unit count, LastPlace x unit ∧ IsNearestEven (x / 2 ^ unit) count ∧
      magnitude bits = count * 2 ^ unit := by
  rcases rounds with @⟨unit, count, place, nearest⟩
  have below : (unit + 1074).toNat * leadingBit + count < infinityBits := by omega
  refine ⟨unit, count, place, nearest, ?_⟩
  rw [Nat.min_eq_left below.le]
  refine magnitude_carry place.le_unit ?_ (place.count_le nearest)
  exact place.full_or_least.imp_left fun full => LastPlace.le_count full nearest

theorem rounds_exact {whole : ℕ} {power : ℤ} (short : whole < 2 ^ 53) (least : -1074 ≤ power)
    (greatest : power ≤ 971) :
    ∃ bits < infinityBits, Rounds (whole * 2 ^ power) bits ∧
      magnitude bits = whole * 2 ^ power := by
  have shortCast : (whole : ℚ) < 2 ^ (53 : ℤ) := by exact_mod_cast short
  have below : (whole : ℚ) * 2 ^ power < 2 ^ (53 + power) := by
    rw [two_zpow_add]
    exact mul_lt_mul_of_pos_right shortCast (two_zpow_pos power)
  rcases exists_rounds (show (0 : ℚ) ≤ whole * 2 ^ power from
    mul_nonneg (Nat.cast_nonneg _) (two_zpow_pos _).le) with ⟨bits, rounds⟩
  rcases rounds with @⟨unit, count, place, nearest⟩
  have unit_le : unit ≤ power := by
    rcases place.full_or_least with full | atLeast
    · have lt := lt_of_le_of_lt full below
      rw [zpow_lt_zpow_iff_right₀ (by norm_num)] at lt
      omega
    · omega
  have exact : (whole : ℚ) * 2 ^ power / 2 ^ unit = (whole * 2 ^ (power - unit).toNat : ℕ) := by
    rw [zpow_eq_mul two_ne_zero unit_le, ← mul_assoc,
      mul_div_cancel_right₀ _ (two_zpow_pos unit).ne']
    push_cast
    rfl
  have counts : count = whole * 2 ^ (power - unit).toNat := by
    rw [exact] at nearest
    exact nearest.unique (IsNearestEven.natCast _)
  have carried : magnitude ((unit + 1074).toNat * leadingBit + count) = count * 2 ^ unit :=
    magnitude_carry place.le_unit
      (place.full_or_least.imp_left fun full => LastPlace.le_count full nearest)
      (place.count_le nearest)
  have value : (count : ℚ) * 2 ^ unit = whole * 2 ^ power := by
    rw [counts, ← exact, div_mul_cancel₀ _ (two_zpow_pos unit).ne']
  have small : (unit + 1074).toNat * leadingBit + count < infinityBits := by
    have infinite : infinityBits = 2047 * 2 ^ 52 := rfl
    have leading : leadingBit = 2 ^ 52 := rfl
    have count_le := place.count_le nearest
    have top : unit = 971 → count < 2 ^ 53 := by
      intro equal
      rw [counts, show (power - unit).toNat = 0 by omega, Nat.pow_zero, Nat.mul_one]
      exact short
    rw [leading]
    omega
  refine ⟨_, ?_, Rounds.intro place nearest, ?_⟩
  · rw [Nat.min_eq_left small.le]
    exact small
  · rw [Nat.min_eq_left small.le, carried, value]

end SignalReplay.Binary64
