import SignalReplay.Proofs.Binary64.Order

/-!
The signs of differences and quotients. Rounding keeps a sign, so the difference between a number
and a smaller one is not negative, and neither is the quotient of numbers that are not negative.
-/

namespace SignalReplay.Binary64

open Float.Model Float.Model.UnpackedFloat

/-! ## Signs -/

/-- A number without a minus sign. An undefined number counts as one. -/
def Unsigned : UnpackedFloat → Prop
  | .notANumber => True
  | .infinity sign => sign = .positive
  | .zero sign => sign = .positive
  | .finite sign .. => sign = .positive

theorem unsigned_unpacked (bits : Nat) : Unsigned (unpacked false bits) := by
  cases kind bits with
  | undefined above => rw [unpacked_undefined _ above]; trivial
  | infinite => rfl
  | finite positive below => rw [unpacked_finite _ positive below]; rfl
  | zero => rfl

theorem toNat_packComponents_lt (exponentField : BitVec Format.binary64.exponentBits)
    (mantissa : BitVec Format.binary64.mantissaBitsWithoutImplicit) :
    (packComponents Format.binary64 .positive exponentField mantissa).toNat < signBit := by
  have exponentBound : exponentField.toNat < 2 ^ 11 := exponentField.isLt
  have mantissaBound : mantissa.toNat < 2 ^ 52 := mantissa.isLt
  have sign : signBit = 2 ^ 63 := rfl
  rw [toNat_packComponents]
  simp only [isNegativeSign, word, Bool.false_eq_true, if_false]
  omega

theorem toNat_pack_lt {number : UnpackedFloat} (unsigned : Unsigned number) :
    (UnpackedFloat.pack Format.binary64 number).toNat < signBit := by
  cases number with
  | notANumber => decide
  | infinity sign => cases unsigned; decide
  | zero sign => cases unsigned; decide
  | finite sign mantissa exponent positive =>
      cases unsigned
      unfold UnpackedFloat.pack
      dsimp only
      split
      · decide
      · split <;> exact toNat_packComponents_lt _ _

theorem isNegative_pack {number : UnpackedFloat} (unsigned : Unsigned number) :
    isNegative (Float.ofModel (Float.Model.pack number)) = false := by
  unfold isNegative
  rw [toBits_pack, decide_eq_false_iff_not, Nat.not_le]
  exact toNat_pack_lt unsigned

theorem unsigned_unpack {value : Float} (unsigned : isNegative value = false) :
    Unsigned value.toModel.unpack := by
  rw [unpack_toModel, unsigned]
  exact unsigned_unpacked _

theorem unsigned_unpack_of_isNaN {value : Float} (undefined : value.isNaN = true) :
    Unsigned value.toModel.unpack := by
  rw [isNaN_eq, decide_eq_true_eq] at undefined
  rw [unpack_toModel, unpacked_undefined _ undefined]
  trivial

@[simp]
theorem orderKey_zero : orderKey 0 = 0 := by decide

theorem orderKey_ne_zero {value : Float} (defined : value.isNaN = false)
    (nonzero : (value == 0) = false) : orderKey value ≠ 0 := by
  intro equal
  rw [← Bool.not_eq_true, beq_iff, orderKey_zero] at nonzero
  exact nonzero ⟨defined, by decide, equal⟩

theorem orderKey_nonneg {value : Float} (unsigned : isNegative value = false) :
    0 ≤ orderKey value := by
  rw [orderKey, unsigned, signedBits_positive]
  omega

theorem isNegative_of_orderKey_pos {value : Float} (positive : 0 < orderKey value) :
    isNegative value = false := by
  unfold orderKey at positive
  cases sign : isNegative value with
  | false => rfl
  | true =>
      rw [sign, signedBits_negative] at positive
      omega

/-! ## Rounding -/

theorem unsigned_roundWithAccuracy (mantissa : Nat) (exponent : Int) (accuracy : Accuracy) :
    Unsigned (roundWithAccuracy Format.binary64 .positive mantissa exponent accuracy) := by
  unfold roundWithAccuracy
  dsimp only
  split <;> rfl

theorem unsigned_normalize {mantissa : Int} (nonnegative : 0 ≤ mantissa) (exponent : Int) :
    Unsigned (UnpackedFloat.normalize Format.binary64 mantissa exponent .positive) := by
  unfold UnpackedFloat.normalize
  split
  · next less =>
    rw [Int.compare_eq_lt] at less
    omega
  · rfl
  · exact unsigned_roundWithAccuracy _ _ _

/-! ## Quotients -/

theorem unsigned_div {left right : UnpackedFloat} (leftUnsigned : Unsigned left)
    (rightUnsigned : Unsigned right) : Unsigned (div Format.binary64 left right) := by
  cases left <;> cases right <;> cases leftUnsigned <;> cases rightUnsigned <;>
    first
    | trivial
    | rfl
    | exact unsigned_roundWithAccuracy _ _ _

theorem isNegative_div {left right : Float} (leftUnsigned : isNegative left = false)
    (rightUnsigned : Unsigned right.toModel.unpack) : isNegative (left / right) = false :=
  isNegative_pack (unsigned_div (unsigned_unpack leftUnsigned) rightUnsigned)

/-! ## Differences -/

/-- The significand of a pattern, brought down to an exponent that is not greater than its own. -/
def aligned (bits : Nat) (least : Int) : Nat :=
  significand bits <<< (exponent bits - least).toNat

theorem aligned_le {left right : Nat} (ordered : left ≤ right) {least : Int}
    (leftLeast : least ≤ exponent left) : aligned left least ≤ aligned right least := by
  unfold aligned
  rw [Nat.shiftLeft_eq, Nat.shiftLeft_eq]
  have exponents : exponent left < exponent right ∧ significand left ≤ 2 * significand right ∨
      exponent left = exponent right ∧ significand left ≤ significand right := by
    unfold exponent significand leadingBit
    split <;> split <;> omega
  rcases exponents with ⟨smaller, twice⟩ | ⟨equal, smaller⟩
  · have exponentStep : (exponent right - least).toNat =
        1 + (exponent left - least).toNat + (exponent right - exponent left - 1).toNat := by omega
    calc significand left * 2 ^ (exponent left - least).toNat
        ≤ 2 * significand right * 2 ^ (exponent left - least).toNat :=
          Nat.mul_le_mul_right _ twice
      _ = significand right * 2 ^ (1 + (exponent left - least).toNat) := by
          rw [Nat.pow_add, Nat.pow_one]
          ac_rfl
      _ ≤ significand right * 2 ^ (exponent right - least).toNat := by
          apply Nat.mul_le_mul_left
          apply Nat.pow_le_pow_right (by decide)
          omega
  · rw [equal]
    exact Nat.mul_le_mul_right _ smaller

theorem unsigned_sub_finite (leftNegative rightNegative : Bool) {left right : Nat}
    (leftPositive : 0 < left) (leftFinite : left < infinityBits) (rightPositive : 0 < right)
    (rightFinite : right < infinityBits)
    (less : signedBits leftNegative left < signedBits rightNegative right) :
    Unsigned (sub Format.binary64 (unpacked rightNegative right) (unpacked leftNegative left)) := by
  rw [unpacked_finite _ leftPositive leftFinite, unpacked_finite _ rightPositive rightFinite]
  apply unsigned_normalize
  change 0 ≤ (signOf rightNegative).apply (aligned right (min (exponent right) (exponent left))) -
    (signOf leftNegative).apply (aligned left (min (exponent right) (exponent left)))
  cases leftNegative <;> cases rightNegative <;>
    simp only [signedBits_positive, signedBits_negative, signOf, Sign.apply, if_true,
      Bool.false_eq_true, if_false] at less ⊢
  · have ordered : aligned left (min (exponent right) (exponent left)) ≤ aligned right _ :=
      aligned_le (by omega) (by omega)
    omega
  · omega
  · omega
  · have ordered : aligned right (min (exponent right) (exponent left)) ≤ aligned left _ :=
      aligned_le (by omega) (by omega)
    omega

theorem unsigned_sub (leftNegative rightNegative : Bool) {left right : Nat}
    (leftDefined : left ≤ infinityBits) (rightDefined : right ≤ infinityBits)
    (less : signedBits leftNegative left < signedBits rightNegative right) :
    Unsigned (sub Format.binary64 (unpacked rightNegative right) (unpacked leftNegative left)) := by
  cases kind right with
  | undefined above => omega
  | infinite =>
      cases rightNegative with
      | true =>
          rw [signedBits_negative] at less
          cases leftNegative <;> simp only [signedBits_negative, signedBits_positive] at less <;>
            omega
      | false =>
          rw [unpacked_infinityBits]
          cases unpacked leftNegative left with
          | notANumber => trivial
          | infinity sign => cases sign <;> trivial
          | _ => rfl
  | finite positive below =>
      cases kind left with
      | undefined above => omega
      | infinite =>
          cases leftNegative with
          | true =>
              rw [unpacked_finite _ positive below, unpacked_infinityBits]
              rfl
          | false =>
              rw [signedBits_positive] at less
              cases rightNegative <;>
                simp only [signedBits_negative, signedBits_positive] at less <;> omega
      | finite leftPositive leftBelow =>
          exact unsigned_sub_finite _ _ leftPositive leftBelow positive below less
      | zero =>
          rw [unpacked_finite _ positive below, unpacked_zero]
          cases rightNegative with
          | true => cases leftNegative <;> simp [signedBits] at less <;> omega
          | false => rfl
  | zero =>
      cases leftNegative with
      | true =>
          cases kind left with
          | undefined above => omega
          | infinite => rfl
          | finite leftPositive leftBelow =>
              rw [unpacked_finite _ leftPositive leftBelow, unpacked_zero]
              rfl
          | zero => cases rightNegative <;> simp [signedBits] at less
      | false => cases rightNegative <;> simp [signedBits] at less <;> omega

theorem isNegative_sub {left right : Float} (less : left < right) :
    isNegative (right - left) = false := by
  rcases lt_iff.mp less with ⟨leftDefined, rightDefined, less⟩
  rw [isNaN_eq, decide_eq_false_iff_not, Nat.not_lt] at leftDefined rightDefined
  apply isNegative_pack
  rw [unpack_toModel, unpack_toModel]
  exact unsigned_sub _ _ leftDefined rightDefined less

end SignalReplay.Binary64
