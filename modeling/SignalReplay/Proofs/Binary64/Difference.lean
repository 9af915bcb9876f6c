import SignalReplay.Proofs.Binary64.Size

/-!
Differences in the order of numbers. Rounding respects the order, so a difference only grows with
the number it is taken from, and it is above zero wherever that is the greater of the two, however
near they are.
-/

namespace SignalReplay.Binary64

/-! ## Rounding and order -/

namespace IsRounded

variable {x y : ℚ} {left right : Float}

theorem isNaN_eq_false (rounded : IsRounded x left) : left.isNaN = false := by
  rw [isNaN_eq, decide_eq_false_iff_not, Nat.not_lt]
  exact rounded.rounds.le_infinityBits

/-- The sign of the exact number is the sign of its place, also where it is rounded to zero. -/
theorem orderKey_eq (rounded : IsRounded x left) :
    orderKey left = signedBits (decide (x < 0)) (magnitudeBits left) := by
  by_cases zero : x = 0
  · have rounds := rounded.rounds
    rw [zero, abs_zero] at rounds
    rw [orderKey, rounds.unique rounds_zero]
    cases isNegative left <;> cases decide (x < 0) <;> rfl
  · rw [orderKey, rounded.sign zero]

theorem le_of_le (leftRounded : IsRounded x left) (rightRounded : IsRounded y right)
    (le : x ≤ y) : left ≤ right := by
  rw [le_iff]
  refine ⟨leftRounded.isNaN_eq_false, rightRounded.isNaN_eq_false, ?_⟩
  rw [leftRounded.orderKey_eq, rightRounded.orderKey_eq]
  rcases le_or_gt 0 x with nonneg | negative
  · have grows := leftRounded.rounds.mono rightRounded.rounds
      (by rwa [abs_of_nonneg nonneg, abs_of_nonneg (nonneg.trans le)])
    rw [decide_eq_false nonneg.not_gt, decide_eq_false (nonneg.trans le).not_gt,
      signedBits_positive, signedBits_positive]
    exact Int.ofNat_le.mpr grows
  · rw [decide_eq_true negative, signedBits_negative]
    rcases le_or_gt 0 y with otherNonneg | otherNegative
    · rw [decide_eq_false otherNonneg.not_gt, signedBits_positive]
      omega
    · have shrinks := rightRounded.rounds.mono leftRounded.rounds
        (by rwa [abs_of_neg negative, abs_of_neg otherNegative, neg_le_neg_iff])
      rw [decide_eq_true otherNegative, signedBits_negative]
      exact Int.neg_le_neg (Int.ofNat_le.mpr shrinks)

end IsRounded

/-! ## Differences -/

variable {less more taken value : Float}

theorem sub_le_sub_of_le (lessFinite : less.isFinite = true) (moreFinite : more.isFinite = true)
    (takenFinite : taken.isFinite = true) (le : less ≤ more) : less - taken ≤ more - taken := by
  rw [le_iff_toRat lessFinite moreFinite] at le
  exact (isRounded_sub lessFinite takenFinite).le_of_le (isRounded_sub moreFinite takenFinite)
    (sub_le_sub_right le _)

theorem exists_multiple_least (value : Float) :
    ∃ count : ℤ, toRat value = count * 2 ^ (-1074 : ℤ) := by
  apply exists_multiple
  exact canonical_fields.le_exponent

theorem sub_pos_of_lt (lessFinite : less.isFinite = true) (moreFinite : more.isFinite = true)
    (lt : less < more) : 0 < more - less := by
  rw [lt_iff_toRat lessFinite moreFinite] at lt
  -- The least number above zero, which the exact difference is a multiple of.
  have least : (Float.ofBits 1).isFinite = true ∧ toRat (Float.ofBits 1) = 2 ^ (-1074 : ℤ) ∧
      0 < Float.ofBits 1 := by
    refine ⟨by decide, ?_, by decide⟩
    have fields : isNegative (Float.ofBits 1) = false ∧ magnitudeBits (Float.ofBits 1) = 1 := by
      decide
    rw [toRat_of_nonneg fields.1, fields.2]
    norm_num [magnitude, significand, exponent, leadingBit]
  rcases least with ⟨leastFinite, leastValue, leastPositive⟩
  have apart : (2 : ℚ) ^ (-1074 : ℤ) ≤ toRat more - toRat less := by
    have positive : 0 < toRat more - toRat less := sub_pos.mpr lt
    have multiples := le_abs_sub_of_multiples (exists_multiple_least more)
      (exists_multiple_least less) positive.ne'
    rwa [abs_of_pos positive] at multiples
  rw [← leastValue] at apart
  have above := (isRounded_toRat leastFinite).le_of_le (isRounded_sub moreFinite lessFinite) apart
  rw [lt_iff] at leastPositive ⊢
  rw [le_iff] at above
  exact ⟨leastPositive.1, above.2.1, Int.lt_of_lt_of_le leastPositive.2.2 above.2.2⟩

theorem sub_self_le_zero (finite : value.isFinite = true) : value - value ≤ 0 := by
  have rounded := isRounded_sub finite finite
  rw [sub_self] at rounded
  have zero := isRounded_toRat toRat_positive_zero.1
  rw [toRat_positive_zero.2] at zero
  exact rounded.le_of_le zero le_rfl

end SignalReplay.Binary64
