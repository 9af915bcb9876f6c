import SignalReplay.Json.Value
import SignalReplay.Proofs.Decimal.Fixed
import SignalReplay.Proofs.Decimal.Rounding

/-!
Two ways to four decimal places compared. The binary product by the power of ten keeps the order to
halves, so both ways find the same number unless the product is a half. Then the binary way takes
the greater neighbour, and the exact way the nearer one or, at an exact half, the even one.
-/

namespace SignalReplay.Decimal

open Binary64

/-! ## Products and halves -/

section Products

variable {x y : ℚ} {bits : ℕ}

theorem magnitude_le_of_le (rounds : Rounds x bits) (representable : Representable y)
    (nonneg : 0 ≤ y) (le : x ≤ y) : magnitude bits ≤ y := by
  rcases representable with ⟨bound, finite, equal⟩
  rw [abs_of_nonneg nonneg] at equal
  rw [← equal] at le ⊢
  exact magnitude_le finite.le (rounds.mono (rounds_magnitude finite.le) le)

theorem le_magnitude_of_le (rounds : Rounds x bits) (representable : Representable y)
    (nonneg : 0 ≤ y) (le : y ≤ x) : y ≤ magnitude bits := by
  rcases representable with ⟨bound, finite, equal⟩
  rw [abs_of_nonneg nonneg] at equal
  rw [← equal] at le ⊢
  exact magnitude_le rounds.le_infinityBits ((rounds_magnitude finite.le).mono rounds le)

theorem representable_half {whole : ℕ} (short : whole < 2 ^ 52) :
    Representable (whole + 1 / 2) := by
  have digits := @representable_digits (2 * whole + 1) (-1) (by omega) (by decide) (by decide)
  have value : ((2 * whole + 1 : ℕ) : ℚ) * 2 ^ (-1 : ℤ) = whole + 1 / 2 := by
    push_cast
    rw [zpow_neg_one]
    ring
  rwa [value] at digits

theorem half_lt_of_half_lt {whole : ℕ} (rounds : Rounds x bits) (short : whole < 2 ^ 52)
    (lt : whole + 1 / 2 < magnitude bits) : whole + 1 / 2 < x := by
  by_contra le
  have bounded := magnitude_le_of_le rounds (representable_half short) (by positivity) (not_lt.mp le)
  linarith

theorem lt_half_of_lt_half {whole : ℕ} (rounds : Rounds x bits) (short : whole < 2 ^ 52)
    (lt : magnitude bits < whole + 1 / 2) : x < whole + 1 / 2 := by
  by_contra le
  have bounded := le_magnitude_of_le rounds (representable_half short) (by positivity) (not_lt.mp le)
  linarith

end Products

theorem halfUp_eq_iff {x : ℚ} (nonneg : 0 ≤ x) {whole : ℕ} :
    halfUp x = whole ↔ whole - 1 / 2 ≤ x ∧ x < whole + 1 / 2 := by
  rw [halfUp, Nat.floor_eq_iff (by linarith)]
  constructor
  · rintro ⟨low, high⟩
    constructor <;> linarith
  · rintro ⟨low, high⟩
    constructor <;> linarith

/-! ## Units compared -/

structure UnitsCompare (x product : ℚ) (exact binary : ℕ) : Prop where
  /-- They differ by at most one, and only at a product that is a half. -/
  next : exact = binary ∨ exact + 1 = binary
  same : (∀ whole : ℕ, product ≠ whole + 1 / 2) → exact = binary
  /-- At an exact half one is even and the other the greater neighbour. -/
  tie : ∀ whole : ℕ, x = whole + 1 / 2 → exact = whole + whole % 2 ∧ binary = whole + 1

section Units

variable {x : ℚ} {bits exact : ℕ}

theorem eq_halfUp_of_not_half (rounds : Rounds x bits) (nonneg : 0 ≤ x)
    (short : halfUp (magnitude bits) < 2 ^ 52) (nearest : IsNearestEven x exact)
    (notHalf : ∀ whole : ℕ, magnitude bits ≠ whole + 1 / 2) : exact = halfUp (magnitude bits) := by
  rcases (halfUp_eq_iff (magnitude_nonneg bits)).mp rfl with ⟨low, high⟩
  generalize halfUp (magnitude bits) = binary at *
  have above := lt_half_of_lt_half rounds short high
  have below : (binary : ℚ) - 1 / 2 < x := by
    cases binary with
    | zero => linarith
    | succ before =>
        push_cast at low ⊢
        have apart : (before : ℚ) + 1 / 2 < magnitude bits :=
          lt_of_le_of_ne (by linarith) (Ne.symm (notHalf before))
        linarith [half_lt_of_half_lt rounds (by omega) apart]
  have near : |x - binary| < 1 / 2 := by
    rw [abs_lt]
    constructor <;> linarith
  exact nearest.unique ⟨near.le, fun tie => absurd tie near.ne⟩

theorem halfUp_half (whole : ℕ) : halfUp (whole + 1 / 2) = whole + 1 := by
  rw [halfUp_eq_iff (by positivity)]
  push_cast
  constructor <;> linarith

theorem neighbour_of_half (rounds : Rounds x bits) (nonneg : 0 ≤ x) {whole : ℕ}
    (short : whole + 1 < 2 ^ 52) (nearest : IsNearestEven x exact)
    (half : magnitude bits = whole + 1 / 2) : exact = whole ∨ exact = whole + 1 := by
  have above : x < (whole + 1 : ℕ) + 1 / 2 := by
    apply lt_half_of_lt_half rounds short
    rw [half]
    push_cast
    linarith
  have below : (whole : ℚ) - 1 / 2 < x := by
    cases whole with
    | zero => norm_num; linarith
    | succ before =>
        have apart : (before : ℚ) + 1 / 2 < magnitude bits := by
          rw [half]
          push_cast
          linarith
        push_cast
        linarith [half_lt_of_half_lt rounds (by omega) apart]
  rcases abs_le.mp nearest.near with ⟨low, high⟩
  push_cast at above
  have least : whole < exact + 1 := by
    have cast : (whole : ℚ) < exact + 1 := by linarith
    exact_mod_cast cast
  have greatest : exact < whole + 2 := by
    have cast : (exact : ℚ) < whole + 2 := by linarith
    exact_mod_cast cast
  omega

theorem unitsCompare (rounds : Rounds x bits) (nonneg : 0 ≤ x)
    (short : halfUp (magnitude bits) < 2 ^ 52) (nearest : IsNearestEven x exact) :
    UnitsCompare x (magnitude bits) exact (halfUp (magnitude bits)) := by
  have same := eq_halfUp_of_not_half rounds nonneg short nearest
  refine ⟨?_, same, ?_⟩
  · by_cases half : ∃ whole : ℕ, magnitude bits = whole + 1 / 2
    · rcases half with ⟨whole, half⟩
      rw [half, halfUp_half] at short ⊢
      rcases neighbour_of_half rounds nonneg short nearest half with equal | equal
      · exact .inr (by rw [equal])
      · exact .inl equal
    · exact .inl (same (not_exists.mp half))
  · intro whole tie
    refine ⟨nearest.unique (.of_half tie), ?_⟩
    have bound : whole < 2 ^ 52 := by
      by_contra long
      have reaches : ((2 ^ 52 : ℕ) : ℚ) ≤ x := by
        have cast : ((2 ^ 52 : ℕ) : ℚ) ≤ whole := by exact_mod_cast not_lt.mp long
        exact cast.trans (by linarith)
      have kept := le_magnitude_of_le rounds (representable_natCast (by decide))
        (by positivity) reaches
      have grown := halfUp_mono kept
      rw [halfUp_natCast] at grown
      omega
    have exactHalf : magnitude bits = whole + 1 / 2 := by
      apply le_antisymm
      · exact magnitude_le_of_le rounds (representable_half bound) (by positivity) tie.le
      · exact le_magnitude_of_le rounds (representable_half bound) (by positivity) tie.ge
    rw [exactHalf, halfUp_half]

end Units

/-! ## Multiples of a ten-thousandth -/

section Multiples

variable {x : ℚ} {bits less more units : ℕ}

theorem abs_sub_magnitude_le (rounds : Rounds x bits) (finite : bits < infinityBits)
    (small : x < 2 ^ (30 : ℤ)) : |x - magnitude bits| ≤ 2 ^ (-24 : ℤ) := by
  rcases rounds.exists_place finite with ⟨unit, count, place, nearest, equal⟩
  have unit_pos := two_zpow_pos unit
  have fine : unit ≤ -23 := by
    rcases place.full_or_least with full | least
    · have between := full.trans_lt small
      rw [zpow_lt_zpow_iff_right₀ (by norm_num)] at between
      omega
    · omega
  have distance : |x - magnitude bits| = |x / 2 ^ unit - count| * 2 ^ unit := by
    rw [equal, ← abs_of_pos unit_pos, ← abs_mul, abs_of_pos unit_pos, sub_mul,
      div_mul_cancel₀ _ unit_pos.ne']
  calc |x - magnitude bits| = |x / 2 ^ unit - count| * 2 ^ unit := distance
    _ ≤ 1 / 2 * 2 ^ unit := mul_le_mul_of_nonneg_right nearest.near unit_pos.le
    _ = 2 ^ (-1 + unit) := by rw [two_zpow_add, zpow_neg_one, one_div]
    _ ≤ 2 ^ (-24 : ℤ) := two_zpow_le (by omega)

theorem eq_of_rounds_multiples (finite : bits < infinityBits)
    (small : (more : ℚ) * 10 ^ (-4 : ℤ) < 2 ^ (30 : ℤ)) (first : Rounds (less * 10 ^ (-4 : ℤ)) bits)
    (second : Rounds (more * 10 ^ (-4 : ℤ)) bits) (le : less ≤ more) : less = more := by
  by_contra differ
  have apart : (less : ℚ) + 1 ≤ more := by exact_mod_cast Nat.lt_of_le_of_ne le differ
  have ordered : (less : ℚ) * 10 ^ (-4 : ℤ) ≤ more * 10 ^ (-4 : ℤ) :=
    mul_le_mul_of_nonneg_right (by linarith) (ten_zpow_pos _).le
  rcases abs_le.mp (abs_sub_magnitude_le first finite (ordered.trans_lt small)) with ⟨low, _⟩
  rcases abs_le.mp (abs_sub_magnitude_le second finite small) with ⟨_, high⟩
  norm_num at low high
  linarith

theorem ten_zpow_le_magnitude (finite : bits ≤ infinityBits)
    (rounds : Rounds (units * 10 ^ (-4 : ℤ)) bits) (positive : 0 < units) :
    10 ^ (-4 : ℤ) ≤ magnitude bits := by
  have pattern : nearestBits 1 (-4) = 0x3F1A36E2EB1C432D := by decide +kernel
  have least := rounds_nearestBits 1 (-4)
  rw [pattern] at least
  have one_le : ((1 : ℕ) : ℚ) * 10 ^ (-4 : ℤ) ≤ units * 10 ^ (-4 : ℤ) :=
    mul_le_mul_of_nonneg_right (by exact_mod_cast positive) (ten_zpow_pos _).le
  have bound : (10 : ℚ) ^ (-4 : ℤ) ≤ magnitude 0x3F1A36E2EB1C432D := by
    norm_num [magnitude, significand, Binary64.exponent, leadingBit]
  exact bound.trans (magnitude_le finite (least.mono rounds one_le))

theorem shortestValue_multiple (tie : Tie) (finite : bits < infinityBits)
    (rounds : Rounds (units * 10 ^ (-4 : ℤ)) bits)
    (small : ((units + 1 : ℕ) : ℚ) * 10 ^ (-4 : ℤ) < 2 ^ (30 : ℤ)) :
    shortestValue tie bits = units * 10 ^ (-4 : ℤ) := by
  rcases Nat.eq_zero_or_pos units with rfl | positive
  · rw [Nat.cast_zero, zero_mul] at rounds ⊢
    rw [rounds.unique rounds_zero, shortestValue_zero]
  · apply shortestValue_eq tie finite rounds (ten_zpow_le_magnitude finite.le rounds positive)
    intro other otherRounds
    have scale_pos := ten_zpow_pos (-4)
    have next : (units : ℚ) * 10 ^ (-4 : ℤ) ≤ ((units + 1 : ℕ) : ℚ) * 10 ^ (-4 : ℤ) :=
      mul_le_mul_of_nonneg_right (by push_cast; linarith) scale_pos.le
    rcases Nat.lt_or_ge units other with greater | le
    · -- The next multiple would be between the two, and be rounded to the same pattern.
      have between := rounds.between otherRounds (by positivity) next
        (mul_le_mul_of_nonneg_right (by exact_mod_cast greater) scale_pos.le)
      have equal := eq_of_rounds_multiples finite small rounds between (Nat.le_succ units)
      omega
    · exact eq_of_rounds_multiples finite (next.trans_lt small) otherRounds rounds le

end Multiples

/-! ## Figures -/

/-- What two texts of a number with four places stand for. They are the same number unless the
binary product by ten thousand is a half; at an exact half one is the even neighbour and the other
the one away from zero; and they never differ by more than a ten-thousandth, by which the second is
further from zero. -/
structure RoundedAlike (value : Float) (exact binary : ℚ) : Prop where
  same : (∀ whole : ℕ, |Binary64.toRat (value * scale)| ≠ whole + 1 / 2) → exact = binary
  tie : ∀ whole : ℕ, |Binary64.toRat value| * 10 ^ 4 = whole + 1 / 2 →
    exact = signed (isNegative value) ((whole + whole % 2 : ℕ) / 10 ^ 4) ∧
      binary = signed (isNegative value) ((whole + 1 : ℕ) / 10 ^ 4)
  next : binary = exact ∨ binary = exact + signed (isNegative value) (1 / 10 ^ 4)

variable {value : Float}

/-- A finite number of up to nine digits before the point. -/
structure IsShowable (value : Float) : Prop where
  finite : value.isFinite = true
  lt : |Binary64.toRat value| < 10 ^ 9

theorem isShowable_of_bits (below : magnitudeBits value < 0x41CDCD6500000000) :
    IsShowable value := by
  have finite : 0x41CDCD6500000000 < infinityBits := by decide
  have bound : magnitude 0x41CDCD6500000000 = 10 ^ 9 := by
    norm_num [magnitude, significand, Binary64.exponent, leadingBit]
  refine ⟨?_, ?_⟩
  · rw [isFinite_eq, decide_eq_true_eq]
    omega
  · rw [abs_toRat, ← bound]
    exact magnitude_lt finite.le below

theorem IsShowable.within (showable : IsShowable value) : Within 30 value :=
  ⟨showable.finite, showable.lt.le.trans (by norm_num)⟩

theorem wholeUnits_le (showable : IsShowable value) : wholeUnits value ≤ 10 ^ 13 := by
  have rounds := (isRounded_mul showable.finite ofSize_scale.1.finite).rounds
  have bound : |Binary64.toRat value * Binary64.toRat scale| ≤ ((10 ^ 13 : ℕ) : ℚ) := by
    rw [ofSize_scale.2, abs_mul]
    have lt := showable.lt
    norm_num at lt ⊢
    linarith
  have kept := magnitude_le_of_le rounds (representable_natCast (by decide)) (by positivity) bound
  have ordered := halfUp_mono kept
  rwa [halfUp_natCast] at ordered

/-- The sign that rounding gives matters only where the result is not zero. -/
theorem signed_of_isRounded {negative : Bool} {x : ℚ} (nonneg : 0 ≤ x)
    (rounded : IsRounded (signed negative x) value) :
    signed (isNegative value) x = signed negative x := by
  rcases eq_or_lt_of_le nonneg with rfl | positive
  · rw [signed_zero, signed_zero]
  · cases negative with
    | false =>
        have sign := rounded.sign positive.ne'
        rw [signed, if_neg Bool.false_ne_true, decide_eq_false positive.le.not_gt] at sign
        rw [sign]
    | true =>
        have sign := rounded.sign (neg_ne_zero.mpr positive.ne')
        rw [signed, if_pos rfl, decide_eq_true (neg_lt_zero.mpr positive)] at sign
        rw [sign]

theorem shortestValue_roundTo (tie : Tie) (showable : IsShowable value) :
    (roundTo value 4).isFinite = true ∧
      signed (isNegative (roundTo value 4))
          (shortestValue tie (magnitudeBits (roundTo value 4))) =
        signed (isNegative value) (wholeUnits value / 10 ^ 4) := by
  rcases isRounded_roundTo showable.within (by decide) (by decide) with ⟨finite, rounded⟩
  have nonneg : (0 : ℚ) ≤ wholeUnits value / 10 ^ 4 := by positivity
  have rounds := rounded.rounds
  have tenths : (wholeUnits value : ℚ) / 10 ^ 4 = wholeUnits value * 10 ^ (-4 : ℤ) := by
    rw [zpow_neg, div_eq_mul_inv]
    norm_num
  rw [abs_signed _ nonneg, tenths] at rounds
  have below := finite
  rw [isFinite_eq, decide_eq_true_eq] at below
  have small : ((wholeUnits value + 1 : ℕ) : ℚ) * 10 ^ (-4 : ℤ) < 2 ^ (30 : ℤ) := by
    have le : (wholeUnits value : ℚ) ≤ 10 ^ 13 := by exact_mod_cast wholeUnits_le showable
    push_cast
    norm_num
    linarith
  rw [shortestValue_multiple tie below rounds small, ← tenths]
  exact ⟨finite, signed_of_isRounded nonneg rounded⟩

/-- The number written with a fixed count of places and the one that is rounded and then written as
short as possible. -/
theorem roundedAlike (showable : IsShowable value) :
    RoundedAlike value (signed (isNegative value) (inUnits 4 (magnitudeBits value) / 10 ^ 4))
      (signed (isNegative value) (wholeUnits value / 10 ^ 4)) := by
  have rounds := (isRounded_mul showable.finite ofSize_scale.1.finite).rounds
  have exactValue : |Binary64.toRat value * Binary64.toRat scale| =
      |Binary64.toRat value| * 10 ^ 4 := by
    rw [abs_mul, ofSize_scale.2]
    norm_num
  have nearest := isNearestEven_inUnits 4 (magnitudeBits value)
  rw [← abs_toRat] at nearest
  rw [exactValue] at rounds
  have compare : UnitsCompare _ _ _ (wholeUnits value) := unitsCompare rounds (by positivity)
    ((wholeUnits_le showable).trans_lt (by decide)) nearest
  rw [← abs_toRat] at compare
  refine ⟨?_, ?_, ?_⟩
  · intro notHalf
    rw [compare.same notHalf]
  · intro whole tie
    rcases compare.tie whole tie with ⟨exact, binary⟩
    rw [exact, binary]
    exact ⟨rfl, rfl⟩
  · rcases compare.next with equal | next
    · exact .inl (by rw [equal])
    · refine .inr ?_
      rw [← next, Nat.cast_add, Nat.cast_one, add_div, signed_add]

end SignalReplay.Decimal
