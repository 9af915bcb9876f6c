import SignalReplay.Proofs.Binary64.Cut

/-!
Arithmetic as rounding. The sum, difference, product or quotient of finite numbers is the number
that the same operation gives without any rounding, rounded once.
-/

namespace SignalReplay.Binary64

open Float.Model Float.Model.UnpackedFloat

/-! ## Values -/

def signed (negative : Bool) (x : ℚ) : ℚ :=
  if negative then -x else x

@[simp]
theorem signed_zero (negative : Bool) : signed negative 0 = 0 := by
  cases negative <;> simp [signed]

theorem abs_signed (negative : Bool) {x : ℚ} (nonnegative : 0 ≤ x) : |signed negative x| = x := by
  cases negative <;> simp [signed, nonnegative]

theorem signed_add (negative : Bool) (x y : ℚ) :
    signed negative (x + y) = signed negative x + signed negative y := by
  cases negative <;> simp [signed, add_comm]

theorem signed_mul (left right : Bool) (x y : ℚ) :
    signed left x * signed right y = signed (left ^^ right) (x * y) := by
  cases left <;> cases right <;> simp [signed]

theorem signed_div (left right : Bool) (x y : ℚ) :
    signed left x / signed right y = signed (left ^^ right) (x / y) := by
  cases left <;> cases right <;> simp [signed, neg_div, div_neg]

@[simp]
theorem neg_signed (negative : Bool) (x : ℚ) : -signed negative x = signed (!negative) x := by
  cases negative <;> simp [signed]

def toRat (value : Float) : ℚ :=
  signed (isNegative value) (magnitude (magnitudeBits value))

@[simp]
theorem abs_toRat (value : Float) : |toRat value| = magnitude (magnitudeBits value) :=
  abs_signed _ (magnitude_nonneg _)

/-- A float that a number is rounded to. Zero may have either sign. -/
structure IsRounded (x : ℚ) (value : Float) : Prop where
  rounds : Rounds |x| (magnitudeBits value)
  sign : x ≠ 0 → isNegative value = decide (x < 0)

theorem IsRounded.of_fields {negative : Bool} {x : ℚ} {value : Float} (nonnegative : 0 ≤ x)
    (fields : isNegative value = negative ∧ Rounds x (magnitudeBits value)) :
    IsRounded (signed negative x) value := by
  refine ⟨by rw [abs_signed _ nonnegative]; exact fields.2, ?_⟩
  intro nonzero
  rw [fields.1]
  cases negative with
  | false => simp [signed, nonnegative]
  | true =>
      have positive : 0 < x := lt_of_le_of_ne nonnegative (by rintro rfl; simp [signed] at nonzero)
      simp [signed, positive]

theorem rounds_zero : Rounds 0 0 := by
  have rounds := rounds_magnitude (show 0 ≤ infinityBits from Nat.zero_le _)
  rwa [magnitude_zero] at rounds

theorem isRounded_toRat {value : Float} (finite : value.isFinite = true) :
    IsRounded (toRat value) value := by
  rw [isFinite_eq, decide_eq_true_eq] at finite
  exact .of_fields (magnitude_nonneg _) ⟨rfl, rounds_magnitude finite.le⟩

/-! ## Operands -/

inductive Operand (value : Float) : UnpackedFloat → Prop
  | zero (magnitude : magnitudeBits value = 0) :
    Operand value (.zero (signOf (isNegative value)))
  | finite {mantissa : ℕ} {power : ℤ} (positive : 0 < mantissa)
    (canonical : Canonical mantissa power)
    (equal : magnitude (magnitudeBits value) = mantissa * 2 ^ power) :
    Operand value (.finite (signOf (isNegative value)) mantissa power positive)

theorem operand {value : Float} (finite : value.isFinite = true) :
    Operand value value.toModel.unpack := by
  rw [isFinite_eq, decide_eq_true_eq] at finite
  rw [unpack_toModel]
  rcases Nat.eq_zero_or_pos (magnitudeBits value) with zero | positive
  · rw [zero, unpacked_zero]
    exact .zero zero
  · rw [unpacked_finite _ positive finite]
    exact .finite (significand_pos positive) canonical_fields rfl

theorem fields_pack_zero (sign : Sign) :
    let value := Float.ofModel (Float.Model.pack (.zero sign))
    isNegative value = isNegativeSign sign ∧ Rounds 0 (magnitudeBits value) := by
  intro value
  have fields : isNegative value = _ ∧ magnitudeBits value = 0 :=
    fields_of_toBits (by decide) (toNat_pack_zero sign)
  rw [fields.2]
  exact ⟨fields.1, rounds_zero⟩

theorem le_log2 {whole power : ℕ} (le : 2 ^ power ≤ whole) : power ≤ whole.log2 :=
  (Nat.le_log2 (Nat.lt_of_lt_of_le (Nat.two_pow_pos power) le).ne').mpr le

variable {left right : Float}

/-! ## Products -/

theorem product_reaches {leftMantissa rightMantissa : ℕ} {leftPower rightPower : ℤ}
    (leftPositive : 0 < leftMantissa) (leftCanonical : Canonical leftMantissa leftPower)
    (rightPositive : 0 < rightMantissa) (rightCanonical : Canonical rightMantissa rightPower) :
    leftPower + rightPower ≤
      max (totalExponent (leftMantissa * rightMantissa) (leftPower + rightPower) - 53) (-1074) := by
  unfold totalExponent
  have full (enough : 2 ^ 52 ≤ leftMantissa * rightMantissa) := le_log2 enough
  rcases leftCanonical.full_or_least with leftFull | leftLeast
  · have digits := full (leftFull.trans (Nat.le_mul_of_pos_right _ rightPositive))
    omega
  · rcases rightCanonical.full_or_least with rightFull | rightLeast
    · have digits := full (rightFull.trans (Nat.le_mul_of_pos_left _ leftPositive))
      omega
    · omega

theorem isRounded_mul (leftFinite : left.isFinite = true) (rightFinite : right.isFinite = true) :
    IsRounded (toRat left * toRat right) (left * right) := by
  have product : left * right = Float.ofModel (Float.Model.pack
    (UnpackedFloat.mul Format.binary64 left.toModel.unpack right.toModel.unpack)) := rfl
  have signs : isNegativeSign (signOf (isNegative left) * signOf (isNegative right)) =
      (isNegative left ^^ isNegative right) := by
    cases isNegative left <;> cases isNegative right <;> rfl
  rw [toRat, toRat, signed_mul, product]
  apply IsRounded.of_fields (mul_nonneg (magnitude_nonneg _) (magnitude_nonneg _))
  rw [← signs]
  have leftOperand := operand leftFinite
  have rightOperand := operand rightFinite
  generalize left.toModel.unpack = leftUnpacked at *
  generalize right.toModel.unpack = rightUnpacked at *
  cases leftOperand with
  | zero leftZero =>
      rw [leftZero, magnitude_zero, zero_mul]
      cases rightOperand with
      | zero rightZero => exact fields_pack_zero _
      | finite rightPositive rightCanonical rightEqual => exact fields_pack_zero _
  | @finite leftMantissa leftPower leftPositive leftCanonical leftEqual =>
      cases rightOperand with
      | zero rightZero =>
          rw [rightZero, magnitude_zero, mul_zero]
          exact fields_pack_zero _
      | @finite rightMantissa rightPower rightPositive rightCanonical rightEqual =>
          have value : magnitude (magnitudeBits left) * magnitude (magnitudeBits right) =
              (leftMantissa * rightMantissa : ℕ) * 2 ^ (leftPower + rightPower) := by
            rw [leftEqual, rightEqual, two_zpow_add]
            push_cast
            ring
          rw [value]
          exact fields_roundWithAccuracy _ (.exact rfl)
            (product_reaches leftPositive leftCanonical rightPositive rightCanonical)

/-! ## Quotients -/

def quotientPower (leftMantissa rightMantissa : ℕ) (leftPower rightPower : ℤ) : ℤ :=
  min (leftPower - rightPower)
    (max (totalExponent leftMantissa leftPower - totalExponent rightMantissa rightPower - 53)
      (-1074))

theorem quotient_reaches {leftMantissa rightMantissa : ℕ} {leftPower rightPower power : ℤ}
    (leftPositive : 0 < leftMantissa) (rightPositive : 0 < rightMantissa)
    (equal : quotientPower leftMantissa rightMantissa leftPower rightPower = power) :
    power ≤ max (totalExponent
      (leftMantissa <<< (leftPower - rightPower - power).toNat / rightMantissa) power - 53)
      (-1074) := by
  unfold quotientPower totalExponent at *
  rcases le_or_gt power (-1074) with low | high
  · omega
  · have lower : 2 ^ leftMantissa.log2 ≤ leftMantissa := Nat.log2_self_le leftPositive.ne'
    have upper : rightMantissa ≤ 2 ^ (rightMantissa.log2 + 1) := Nat.lt_log2_self.le
    have enough : 2 ^ 52 ≤
        leftMantissa <<< (leftPower - rightPower - power).toNat / rightMantissa := by
      rw [Nat.le_div_iff_mul_le rightPositive, Nat.shiftLeft_eq]
      calc 2 ^ 52 * rightMantissa
          ≤ 2 ^ 52 * 2 ^ (rightMantissa.log2 + 1) := Nat.mul_le_mul_left _ upper
        _ = 2 ^ (52 + (rightMantissa.log2 + 1)) := (Nat.pow_add _ _ _).symm
        _ ≤ 2 ^ (leftMantissa.log2 + (leftPower - rightPower - power).toNat) :=
            Nat.pow_le_pow_right (by decide) (by omega)
        _ = 2 ^ leftMantissa.log2 * 2 ^ (leftPower - rightPower - power).toNat :=
            Nat.pow_add _ _ _
        _ ≤ leftMantissa * 2 ^ (leftPower - rightPower - power).toNat :=
            Nat.mul_le_mul_right _ lower
    have digits := le_log2 enough
    omega

theorem fields_divCore (sign : Sign) {leftMantissa rightMantissa : ℕ}
    (leftPositive : 0 < leftMantissa) (rightPositive : 0 < rightMantissa)
    (leftPower rightPower : ℤ) :
    let parts := divCore Format.binary64 leftMantissa leftPower rightMantissa rightPower
    let value := Float.ofModel (Float.Model.pack
      (roundWithAccuracy Format.binary64 sign parts.1 parts.2.1 parts.2.2))
    isNegative value = isNegativeSign sign ∧
      Rounds (leftMantissa * 2 ^ leftPower / (rightMantissa * 2 ^ rightPower))
        (magnitudeBits value) := by
  unfold divCore
  dsimp only
  rw [targetExponent_eq]
  generalize equal : min (leftPower - rightPower)
    (max (totalExponent leftMantissa leftPower - totalExponent rightMantissa rightPower - 53)
      (-1074)) = power
  have reaches := quotient_reaches leftPositive rightPositive equal
  have shift : leftPower - rightPower = (leftPower - rightPower - power).toNat + power := by omega
  generalize (leftPower - rightPower - power).toNat = places at *
  have rightCast : (rightMantissa : ℚ) ≠ 0 := by exact_mod_cast rightPositive.ne'
  have quotient : ((leftMantissa <<< places / rightMantissa : ℕ) : ℚ) +
      (leftMantissa <<< places % rightMantissa : ℕ) / rightMantissa =
        leftMantissa * 2 ^ places / rightMantissa := by
    have whole : ((leftMantissa <<< places : ℕ) : ℚ) =
        rightMantissa * (leftMantissa <<< places / rightMantissa : ℕ) +
          (leftMantissa <<< places % rightMantissa : ℕ) := by
      exact_mod_cast (Nat.div_add_mod (leftMantissa <<< places) rightMantissa).symm
    rw [show (leftMantissa : ℚ) * 2 ^ places = (leftMantissa <<< places : ℕ) by
      rw [Nat.shiftLeft_eq]; push_cast; rfl, whole]
    field_simp
  have value : (leftMantissa : ℚ) * 2 ^ leftPower / (rightMantissa * 2 ^ rightPower) =
      leftMantissa * 2 ^ places / rightMantissa * 2 ^ power := by
    rw [show leftPower = places + power + rightPower by omega, two_zpow_add, two_zpow_add,
      zpow_natCast]
    have := (two_zpow_pos rightPower).ne'
    field_simp
  rw [value, ← quotient]
  exact fields_roundWithAccuracy sign (truncates_fraction _ (Nat.mod_lt _ rightPositive)) reaches
theorem isRounded_div (leftFinite : left.isFinite = true) (rightFinite : right.isFinite = true)
    (nonzero : toRat right ≠ 0) : IsRounded (toRat left / toRat right) (left / right) := by
  have quotient : left / right = Float.ofModel (Float.Model.pack
    (UnpackedFloat.div Format.binary64 left.toModel.unpack right.toModel.unpack)) := rfl
  have signs : isNegativeSign (signOf (isNegative left) / signOf (isNegative right)) =
      (isNegative left ^^ isNegative right) := by
    cases isNegative left <;> cases isNegative right <;> rfl
  rw [toRat] at nonzero
  rw [toRat, toRat, signed_div, quotient]
  apply IsRounded.of_fields (div_nonneg (magnitude_nonneg _) (magnitude_nonneg _))
  rw [← signs]
  have leftOperand := operand leftFinite
  have rightOperand := operand rightFinite
  generalize left.toModel.unpack = leftUnpacked at *
  generalize right.toModel.unpack = rightUnpacked at *
  cases rightOperand with
  | zero rightZero =>
      rw [rightZero, magnitude_zero, signed_zero] at nonzero
      exact absurd rfl nonzero
  | @finite rightMantissa rightPower rightPositive rightCanonical rightEqual =>
      cases leftOperand with
      | zero leftZero =>
          rw [leftZero, magnitude_zero, zero_div]
          exact fields_pack_zero _
      | @finite leftMantissa leftPower leftPositive leftCanonical leftEqual =>
          rw [leftEqual, rightEqual]
          exact fields_divCore _ leftPositive rightPositive leftPower rightPower

/-! ## Sums and differences -/

theorem isRounded_normalize (mantissa power : ℤ) :
    IsRounded (mantissa * 2 ^ power)
      (Float.ofModel (Float.Model.pack
        (UnpackedFloat.normalize Format.binary64 mantissa power .positive))) := by
  unfold UnpackedFloat.normalize
  rcases lt_trichotomy mantissa 0 with less | rfl | more
  · have value : (mantissa : ℚ) * 2 ^ power = signed true ((-mantissa).toNat * 2 ^ power) := by
      have cast : ((-mantissa).toNat : ℚ) = -mantissa := by
        exact_mod_cast Int.toNat_of_nonneg (show 0 ≤ -mantissa by omega)
      rw [signed, if_pos rfl, cast]
      ring
    rw [Int.compare_eq_lt.mpr less, value]
    exact .of_fields (mul_nonneg (Nat.cast_nonneg _) (two_zpow_pos power).le)
      (fields_round .negative (by omega) power)
  · rw [Int.cast_zero, zero_mul]
    exact IsRounded.of_fields le_rfl (fields_pack_zero .positive)
  · have value : (mantissa : ℚ) * 2 ^ power = signed false (mantissa.toNat * 2 ^ power) := by
      have cast : (mantissa.toNat : ℚ) = mantissa := by
        exact_mod_cast Int.toNat_of_nonneg more.le
      rw [signed, if_neg Bool.false_ne_true, cast]
    rw [Int.compare_eq_gt.mpr more, value]
    exact .of_fields (mul_nonneg (Nat.cast_nonneg _) (two_zpow_pos power).le)
      (fields_round .positive (by omega) power)

theorem pack_unpack (value : Float) (defined : value.isNaN = false) :
    Float.ofModel (Float.Model.pack value.toModel.unpack) = value := by
  rw [isNaN_eq, decide_eq_false_iff_not, Nat.not_lt] at defined
  rw [unpack_toModel]
  have fields := fields_pack_unpacked (isNegative value) defined
  exact ext_fields fields.1 fields.2

theorem isNaN_of_isFinite {value : Float} (finite : value.isFinite = true) :
    value.isNaN = false := by
  rw [isFinite_eq, decide_eq_true_eq] at finite
  rw [isNaN_eq, decide_eq_false_iff_not]
  omega

theorem toRat_neg {value : Float} (finite : value.isFinite = true) :
    (-value).isFinite = true ∧ toRat (-value) = -toRat value := by
  have fields := fields_neg (isNaN_of_isFinite finite)
  rw [isFinite_eq] at finite
  rw [isFinite_eq, fields.2, toRat, toRat, fields.1, fields.2, neg_signed]
  exact ⟨finite, rfl⟩

theorem apply_shiftLeft (negative : Bool) (mantissa : ℕ) {power least : ℤ} (le : least ≤ power) :
    (((signOf negative).apply (mantissa <<< (power - least).toNat : ℕ) : ℤ) : ℚ) * 2 ^ least =
      signed negative (mantissa * 2 ^ power) := by
  have value : ((mantissa <<< (power - least).toNat : ℕ) : ℚ) * 2 ^ least =
      mantissa * 2 ^ power := by
    rw [Nat.shiftLeft_eq, Nat.cast_mul, Nat.cast_pow, Nat.cast_ofNat, mul_assoc,
      ← zpow_eq_mul two_ne_zero le]
  cases negative with
  | false => exact value
  | true =>
      rw [signed, if_pos rfl, ← value, ← neg_mul]
      change ((-((mantissa <<< (power - least).toNat : ℕ) : ℤ) : ℤ) : ℚ) * 2 ^ least = _
      rw [Int.cast_neg, Int.cast_natCast]

theorem isRounded_pack_zero (sign : Sign) :
    IsRounded 0 (Float.ofModel (Float.Model.pack (.zero sign))) := by
  have rounded := IsRounded.of_fields le_rfl (fields_pack_zero sign)
  rwa [signed_zero] at rounded

theorem toRat_zero (zero : magnitudeBits left = 0) : toRat left = 0 := by
  rw [toRat, zero, magnitude_zero, signed_zero]

theorem isRounded_add (leftFinite : left.isFinite = true) (rightFinite : right.isFinite = true) :
    IsRounded (toRat left + toRat right) (left + right) := by
  have sum : left + right = Float.ofModel (Float.Model.pack
    (UnpackedFloat.add Format.binary64 left.toModel.unpack right.toModel.unpack)) := rfl
  have leftSame := pack_unpack left (isNaN_of_isFinite leftFinite)
  have rightSame := pack_unpack right (isNaN_of_isFinite rightFinite)
  have leftOperand := operand leftFinite
  have rightOperand := operand rightFinite
  rw [sum]
  generalize left.toModel.unpack = leftUnpacked at *
  generalize right.toModel.unpack = rightUnpacked at *
  cases leftOperand with
  | zero leftZero =>
      rw [toRat_zero leftZero, zero_add]
      cases rightOperand with
      | zero rightZero =>
          rw [toRat_zero rightZero, UnpackedFloat.add]
          split <;> exact isRounded_pack_zero _
      | finite rightPositive rightCanonical rightEqual =>
          exact (congrArg (IsRounded (toRat right)) rightSame).mpr (isRounded_toRat rightFinite)
  | @finite leftMantissa leftPower leftPositive leftCanonical leftEqual =>
      cases rightOperand with
      | zero rightZero =>
          rw [toRat_zero rightZero, add_zero]
          exact (congrArg (IsRounded (toRat left)) leftSame).mpr (isRounded_toRat leftFinite)
      | @finite rightMantissa rightPower rightPositive rightCanonical rightEqual =>
          rw [toRat, toRat, leftEqual, rightEqual,
            ← apply_shiftLeft _ leftMantissa (min_le_left leftPower rightPower),
            ← apply_shiftLeft _ rightMantissa (min_le_right leftPower rightPower), ← add_mul,
            ← Int.cast_add]
          exact isRounded_normalize _ _

theorem isRounded_sub (leftFinite : left.isFinite = true) (rightFinite : right.isFinite = true) :
    IsRounded (toRat left - toRat right) (left - right) := by
  have difference : left - right = Float.ofModel (Float.Model.pack
    (UnpackedFloat.sub Format.binary64 left.toModel.unpack right.toModel.unpack)) := rfl
  have leftSame := pack_unpack left (isNaN_of_isFinite leftFinite)
  have rightNegated : Float.ofModel (Float.Model.pack right.toModel.unpack.neg) = -right := rfl
  have leftOperand := operand leftFinite
  have rightOperand := operand rightFinite
  rw [difference]
  generalize left.toModel.unpack = leftUnpacked at *
  generalize right.toModel.unpack = rightUnpacked at *
  cases leftOperand with
  | zero leftZero =>
      rw [toRat_zero leftZero, zero_sub]
      cases rightOperand with
      | zero rightZero =>
          rw [toRat_zero rightZero, neg_zero, UnpackedFloat.sub]
          split <;> exact isRounded_pack_zero _
      | finite rightPositive rightCanonical rightEqual =>
          rcases toRat_neg rightFinite with ⟨negatedFinite, negated⟩
          rw [← negated]
          exact (congrArg (IsRounded (toRat (-right))) rightNegated).mpr
            (isRounded_toRat negatedFinite)
  | @finite leftMantissa leftPower leftPositive leftCanonical leftEqual =>
      cases rightOperand with
      | zero rightZero =>
          rw [toRat_zero rightZero, sub_zero]
          exact (congrArg (IsRounded (toRat left)) leftSame).mpr (isRounded_toRat leftFinite)
      | @finite rightMantissa rightPower rightPositive rightCanonical rightEqual =>
          rw [toRat, toRat, leftEqual, rightEqual,
            ← apply_shiftLeft _ leftMantissa (min_le_left leftPower rightPower),
            ← apply_shiftLeft _ rightMantissa (min_le_right leftPower rightPower), ← sub_mul,
            ← Int.cast_sub]
          exact isRounded_normalize _ _

end SignalReplay.Binary64
