import SignalReplay.Proofs.Binary64.Arithmetic
import SignalReplay.Proofs.Decimal.Shortest

/-!
The numbers that numerals stand for. A pattern is shortened to a numeral that rounds to it and has
the fewest digits, so a number with few places after the point is written as it is, provided that
no other number with so few places rounds to the same pattern.
-/

namespace SignalReplay.Decimal

open Binary64

theorem ten_zpow_pos (power : ℤ) : (0 : ℚ) < 10 ^ power :=
  zpow_pos (by norm_num) power

theorem ten_zpow_add (left right : ℤ) : (10 : ℚ) ^ (left + right) = 10 ^ left * 10 ^ right :=
  zpow_add₀ (by norm_num) left right

def toRat (decimal : Decimal) : ℚ :=
  signed decimal.negative (decimal.digits * 10 ^ decimal.exponent)

theorem rounds_nearestBits (digits : ℕ) (exponent : ℤ) :
    Rounds (digits * 10 ^ exponent) (nearestBits digits exponent) := by
  have split : (digits : ℚ) * 10 ^ exponent =
      (digits * 10 ^ exponent.toNat : ℕ) / (10 ^ (-exponent).toNat : ℕ) := by
    push_cast
    rw [zpow_eq_div (by norm_num), mul_div_assoc]
  rw [nearestBits_eq_nearest, split]
  exact rounds_nearest _ (Nat.pow_pos (by decide))

theorem nearestBits_eq_iff {digits bits : ℕ} {exponent : ℤ} :
    nearestBits digits exponent = bits ↔ Rounds (digits * 10 ^ exponent) bits := by
  constructor
  · rintro rfl
    exact rounds_nearestBits digits exponent
  · exact (rounds_nearestBits digits exponent).unique

/-! ## Exact digits -/

theorem exactDigits_value (bits : ℕ) :
    ((exactDigits bits).1 : ℚ) * 10 ^ (exactDigits bits).2 = magnitude bits := by
  unfold exactDigits magnitude
  simp only [Nat.pow_eq]
  generalize Binary64.exponent bits = power
  generalize significand bits = whole
  push_cast
  rcases le_total 0 power with nonnegative | nonpositive
  · rw [min_eq_right nonnegative, zpow_zero, mul_one, ← zpow_natCast,
      Int.toNat_of_nonneg nonnegative, show (-power).toNat = 0 by omega, pow_zero, mul_one]
  · have fraction : (2 : ℚ) ^ power = 5 ^ (-power).toNat * 10 ^ power := by
      have tens : (10 : ℚ) ^ power = 2 ^ power * 5 ^ power := by
        rw [← mul_zpow]
        norm_num
      rw [tens, ← zpow_natCast, Int.toNat_of_nonneg (by omega), mul_left_comm,
        ← zpow_add₀ (by norm_num), neg_add_cancel, zpow_zero, mul_one]
    rw [min_eq_left nonpositive, show power.toNat = 0 by omega, pow_zero, mul_one, mul_assoc,
      ← fraction]

/-! ## Shortest digits -/

@[simp]
theorem shortestValue_zero (tie : Tie) : shortestValue tie 0 = 0 := by
  have digits : (shortest tie 0).1 = 0 := by cases tie <;> decide +kernel
  rw [shortestValue, digits, Nat.cast_zero, zero_mul]

theorem rounds_shortestValue (tie : Tie) {bits : ℕ} (finite : bits < infinityBits) :
    Rounds (shortestValue tie bits) bits := by
  rcases Nat.eq_zero_or_pos bits with zero | positive
  · rw [zero, shortestValue_zero]
    exact rounds_zero
  · rw [shortestValue, ← nearestBits_eq_iff]
    exact nearestBits_shortest tie positive finite

theorem exponent_of_shorten? {tie : Tie} {bits exact dropped digits : ℕ}
    {exponent shortened : ℤ}
    (found : shorten? tie bits exact exponent dropped = some (digits, shortened)) :
    shortened = exponent + dropped := by
  unfold shorten? at found
  dsimp only at found
  split at found
  · cases found
  · cases found
    rfl
  · cases found
    rfl
  · split at found <;> cases found <;> rfl

theorem isSome_shorten?_iff {tie : Tie} {bits exact dropped : ℕ} {exponent : ℤ} :
    (shorten? tie bits exact exponent dropped).isSome ↔
      nearestBits (exact / 10 ^ dropped) (exponent + dropped) = bits ∨
        nearestBits (exact / 10 ^ dropped + 1) (exponent + dropped) = bits := by
  unfold shorten?
  simp only [Nat.pow_eq]
  cases lower : nearestBits (exact / 10 ^ dropped) (exponent + dropped) == bits <;>
    cases upper : nearestBits (exact / 10 ^ dropped + 1) (exponent + dropped) == bits <;>
    simp only [beq_eq_false_iff_ne, beq_iff_eq] at lower upper
  · simp [lower, upper]
  · simp [upper]
  · simp [lower]
  · dsimp only
    split <;> simp [lower]

/-- If a whole count of a power of ten rounds to the pattern, so does one of the two counts around
the exact value. -/
theorem isSome_shorten? (tie : Tie) {bits whole dropped : ℕ} (finite : bits ≤ infinityBits)
    (rounds : Rounds (whole * 10 ^ ((exactDigits bits).2 + dropped)) bits) :
    (shorten? tie bits (exactDigits bits).1 (exactDigits bits).2 dropped).isSome := by
  have exactRounds := rounds_magnitude finite
  rw [← exactDigits_value bits] at exactRounds
  rw [isSome_shorten?_iff, nearestBits_eq_iff, nearestBits_eq_iff]
  generalize (exactDigits bits).1 = exact at *
  generalize (exactDigits bits).2 = exponent at *
  have scale_pos : (0 : ℚ) < 10 ^ (exponent + dropped) := ten_zpow_pos _
  have scaled : (exact : ℚ) * 10 ^ exponent =
      (exact : ℚ) / 10 ^ dropped * 10 ^ (exponent + dropped) := by
    rw [ten_zpow_add, zpow_natCast]
    field_simp
  have below : ((exact / 10 ^ dropped : ℕ) : ℚ) ≤ (exact : ℚ) / 10 ^ dropped := by
    exact_mod_cast @Nat.cast_div_le ℚ _ _ _ exact (10 ^ dropped)
  have above : (exact : ℚ) / 10 ^ dropped ≤ (exact / 10 ^ dropped : ℕ) + 1 := by
    rw [div_le_iff₀ (by positivity), mul_comm]
    exact_mod_cast (Nat.lt_mul_div_succ exact (Nat.pow_pos (by decide : 0 < 10))).le
  rw [scaled] at exactRounds
  rcases Nat.lt_or_ge (exact / 10 ^ dropped) whole with more | less
  · refine .inr (exactRounds.between rounds (by positivity) ?_ ?_)
    · push_cast
      exact mul_le_mul_of_nonneg_right above scale_pos.le
    · exact mul_le_mul_of_nonneg_right (by exact_mod_cast more) scale_pos.le
  · refine .inl (rounds.between exactRounds (by positivity) ?_ ?_)
    · exact mul_le_mul_of_nonneg_right (by exact_mod_cast less) scale_pos.le
    · exact mul_le_mul_of_nonneg_right below scale_pos.le

theorem lt_digitCount {places exact : ℕ} (positive : 0 < places) (le : 10 ^ places ≤ exact) :
    places < digitCount exact := by
  rw [digitCount, ← not_le, Nat.length_toDigits_le_iff (by decide) positive]
  omega

theorem exists_le_of_findSome?_range {α : Type} {count place : ℕ} {step : ℕ → Option α}
    (lt : place < count) (candidate : (step place).isSome) :
    ∃ kept ≤ place, ∃ found, step kept = some found ∧
      (List.range count).findSome? step = some found := by
  have early : ((List.range (place + 1)).findSome? step).isSome :=
    List.findSome?_isSome_iff.mpr ⟨place, List.mem_range.mpr (Nat.lt_succ_self place), candidate⟩
  rcases Option.isSome_iff_exists.mp early with ⟨found, first⟩
  rcases List.exists_of_findSome?_eq_some first with ⟨kept, member, taken⟩
  rcases Nat.exists_eq_add_of_le (show place + 1 ≤ count from lt) with ⟨later, rfl⟩
  refine ⟨kept, Nat.lt_succ_iff.mp (List.mem_range.mp member), found, taken, ?_⟩
  rw [List.range_add, List.findSome?_append, first, Option.some_or]

/-- The search ends before it keeps more places than some number with the pattern has. -/
theorem le_exponent_shortest (tie : Tie) {bits whole : ℕ} {power : ℤ}
    (finite : bits ≤ infinityBits) (rounds : Rounds (whole * 10 ^ power) bits)
    (reaches : 10 ^ power ≤ magnitude bits) : power ≤ (shortest tie bits).2 := by
  have enough := @isSome_shorten? tie bits whole (power - (exactDigits bits).2).toNat finite
  rw [← exactDigits_value bits] at reaches
  unfold shortest
  dsimp only
  generalize (exactDigits bits).1 = exact at *
  generalize (exactDigits bits).2 = exponent at *
  rcases le_or_gt power exponent with within | short
  · -- Every candidate keeps the places of the exact numeral or fewer.
    generalize search : List.findSome? _ _ = result
    cases result with
    | none => exact within
    | some numeral =>
        rcases List.exists_of_findSome?_eq_some search with ⟨kept, inRange, taken⟩
        have below := List.mem_range.mp inRange
        have shift := exponent_of_shorten? taken
        change power ≤ numeral.2
        omega
  · -- The candidate that keeps as many places as the number is taken, if none before it is.
    have distance : ((power - exponent).toNat : ℤ) = power - exponent := by omega
    generalize (power - exponent).toNat = dropped at *
    have digits : 10 ^ dropped ≤ exact := by
      rw [show power = dropped + exponent by omega, ten_zpow_add, zpow_natCast,
        mul_le_mul_iff_left₀ (ten_zpow_pos exponent)] at reaches
      exact_mod_cast reaches
    have fewer := lt_digitCount (by omega) digits
    generalize digitCount exact = count at *
    let step (kept : ℕ) := shorten? tie bits exact exponent (count - 1 - kept)
    have candidate : (step (count - 1 - dropped)).isSome := by
      change (shorten? tie bits exact exponent (count - 1 - (count - 1 - dropped))).isSome = true
      rw [show count - 1 - (count - 1 - dropped) = dropped by omega]
      exact enough (by rwa [show exponent + (dropped : ℤ) = power by omega])
    rcases exists_le_of_findSome?_range (show count - 1 - dropped < count by omega) candidate with
      ⟨kept, le, numeral, taken, search⟩
    have shift := exponent_of_shorten? taken
    rw [search]
    change power ≤ numeral.2
    omega

/-- A number with few places is written as it is if it is the only one with so few places that
rounds to its pattern. -/
theorem shortestValue_eq (tie : Tie) {bits whole : ℕ} {power : ℤ}
    (finite : bits < infinityBits) (rounds : Rounds (whole * 10 ^ power) bits)
    (reaches : 10 ^ power ≤ magnitude bits)
    (unique : ∀ other : ℕ, Rounds (other * 10 ^ power) bits → other = whole) :
    shortestValue tie bits = whole * 10 ^ power := by
  have le := le_exponent_shortest tie finite.le rounds reaches
  have value : shortestValue tie bits =
      ((shortest tie bits).1 * 10 ^ ((shortest tie bits).2 - power).toNat : ℕ) * 10 ^ power := by
    rw [shortestValue, zpow_eq_mul (by norm_num) le]
    push_cast
    rw [mul_assoc]
  have found := rounds_shortestValue tie finite
  rw [value] at found ⊢
  rw [unique _ found]

end SignalReplay.Decimal
