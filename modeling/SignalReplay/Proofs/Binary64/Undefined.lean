import SignalReplay.Proofs.Binary64.Difference

/-!
Undefined results. A difference is undefined if one of its operands is, or if an infinity is taken
from itself. A quotient by a number above zero is undefined if the number divided is, or if both
are infinite. A result that is only too great is an infinity.
-/

namespace SignalReplay.Binary64

open Float.Model Float.Model.UnpackedFloat

variable {value left right : Float}

/-! ## Operands that are not finite -/

theorem unpack_of_isNaN (undefined : value.isNaN = true) :
    value.toModel.unpack = .notANumber := by
  rw [isNaN_eq, decide_eq_true_eq] at undefined
  rw [unpack_toModel, unpacked_undefined _ undefined]

theorem magnitudeBits_of_infinite (defined : value.isNaN = false)
    (infinite : value.isFinite = false) : magnitudeBits value = infinityBits := by
  rw [isNaN_eq, decide_eq_false_iff_not] at defined
  rw [isFinite_eq, decide_eq_false_iff_not] at infinite
  omega

theorem unpack_of_infinite (defined : value.isNaN = false) (infinite : value.isFinite = false) :
    value.toModel.unpack = .infinity (signOf (isNegative value)) := by
  rw [unpack_toModel, magnitudeBits_of_infinite defined infinite, unpacked_infinityBits]

@[simp]
theorem isNaN_pack_infinity (sign : Sign) :
    (Float.ofModel (Float.Model.pack (.infinity sign))).isNaN = false := by
  cases sign <;> decide

@[simp]
theorem isNaN_pack_zero (sign : Sign) :
    (Float.ofModel (Float.Model.pack (.zero sign))).isNaN = false := by
  cases sign <;> decide

/-! ## Differences -/

theorem sub_eq_pack (left right : Float) :
    left - right = Float.ofModel (Float.Model.pack
      (sub Format.binary64 left.toModel.unpack right.toModel.unpack)) := rfl

theorem isNaN_sub_of_isNaN (undefined : left.isNaN = true ∨ right.isNaN = true) :
    (left - right).isNaN = true := by
  have result : sub Format.binary64 left.toModel.unpack right.toModel.unpack = .notANumber := by
    rcases undefined with leftUndefined | rightUndefined
    · rw [unpack_of_isNaN leftUndefined]
      rfl
    · rw [unpack_of_isNaN rightUndefined]
      cases left.toModel.unpack <;> rfl
  rw [sub_eq_pack, result]
  decide

theorem isNaN_sub_infinite_iff (leftDefined : left.isNaN = false)
    (leftInfinite : left.isFinite = false) (rightDefined : right.isNaN = false)
    (rightInfinite : right.isFinite = false) : (left - right).isNaN = false ↔ left ≠ right := by
  have equal_iff : left = right ↔ isNegative left = isNegative right := by
    refine ⟨congrArg isNegative, fun signs => ext_fields signs ?_⟩
    rw [magnitudeBits_of_infinite leftDefined leftInfinite,
      magnitudeBits_of_infinite rightDefined rightInfinite]
  rw [sub_eq_pack, unpack_of_infinite leftDefined leftInfinite,
    unpack_of_infinite rightDefined rightInfinite, ne_eq, equal_iff]
  cases isNegative left <;> cases isNegative right <;> decide

theorem isNaN_sub_infinite_finite (leftDefined : left.isNaN = false)
    (leftInfinite : left.isFinite = false) (rightFinite : right.isFinite = true) :
    (left - right).isNaN = false := by
  have rightOperand := operand rightFinite
  rw [sub_eq_pack, unpack_of_infinite leftDefined leftInfinite]
  generalize right.toModel.unpack = rightUnpacked at *
  cases rightOperand <;> exact isNaN_pack_infinity _

theorem isNaN_sub_finite_infinite (leftFinite : left.isFinite = true)
    (rightDefined : right.isNaN = false) (rightInfinite : right.isFinite = false) :
    (left - right).isNaN = false := by
  have leftOperand := operand leftFinite
  rw [sub_eq_pack, unpack_of_infinite rightDefined rightInfinite]
  generalize left.toModel.unpack = leftUnpacked at *
  cases leftOperand <;> exact isNaN_pack_infinity _

/-- Both numbers are defined, and they are not the same infinity. -/
structure HasDifference (left right : Float) : Prop where
  leftDefined : left.isNaN = false
  rightDefined : right.isNaN = false
  finite : left = right → left.isFinite = true

theorem HasDifference.symm (difference : HasDifference left right) : HasDifference right left :=
  ⟨difference.rightDefined, difference.leftDefined,
    fun equal => equal ▸ difference.finite equal.symm⟩

theorem isNaN_sub_eq_false_iff : (left - right).isNaN = false ↔ HasDifference left right := by
  constructor
  · intro defined
    have operandsDefined : ¬ (left.isNaN = true ∨ right.isNaN = true) := by
      intro undefined
      rw [isNaN_sub_of_isNaN undefined] at defined
      cases defined
    rw [not_or, Bool.not_eq_true, Bool.not_eq_true] at operandsDefined
    rcases operandsDefined with ⟨leftDefined, rightDefined⟩
    refine ⟨leftDefined, rightDefined, fun equal => ?_⟩
    cases finite : left.isFinite with
    | true => rfl
    | false =>
        exact absurd equal
          ((isNaN_sub_infinite_iff leftDefined finite rightDefined (equal ▸ finite)).mp defined)
  · rintro ⟨leftDefined, rightDefined, finite⟩
    cases leftFinite : left.isFinite with
    | true =>
        cases rightFinite : right.isFinite with
        | true => exact (isRounded_sub leftFinite rightFinite).isNaN_eq_false
        | false => exact isNaN_sub_finite_infinite leftFinite rightDefined rightFinite
    | false =>
        cases rightFinite : right.isFinite with
        | true => exact isNaN_sub_infinite_finite leftDefined leftFinite rightFinite
        | false =>
            rw [isNaN_sub_infinite_iff leftDefined leftFinite rightDefined rightFinite]
            intro equal
            cases leftFinite.symm.trans (finite equal)

/-! ## Quotients -/

theorem div_eq_pack (left right : Float) :
    left / right = Float.ofModel (Float.Model.pack
      (div Format.binary64 left.toModel.unpack right.toModel.unpack)) := rfl

theorem isNaN_div_of_isNaN (undefined : left.isNaN = true ∨ right.isNaN = true) :
    (left / right).isNaN = true := by
  have result : div Format.binary64 left.toModel.unpack right.toModel.unpack = .notANumber := by
    rcases undefined with leftUndefined | rightUndefined
    · rw [unpack_of_isNaN leftUndefined]
      rfl
    · rw [unpack_of_isNaN rightUndefined]
      cases left.toModel.unpack <;> rfl
  rw [div_eq_pack, result]
  decide

theorem isNaN_div_infinite (leftDefined : left.isNaN = false) (leftInfinite : left.isFinite = false)
    (rightDefined : right.isNaN = false) (rightInfinite : right.isFinite = false) :
    (left / right).isNaN = true := by
  rw [div_eq_pack, unpack_of_infinite leftDefined leftInfinite,
    unpack_of_infinite rightDefined rightInfinite]
  cases isNegative left <;> cases isNegative right <;> decide

theorem isNaN_div_infinite_finite (leftDefined : left.isNaN = false)
    (leftInfinite : left.isFinite = false) (rightFinite : right.isFinite = true) :
    (left / right).isNaN = false := by
  have rightOperand := operand rightFinite
  rw [div_eq_pack, unpack_of_infinite leftDefined leftInfinite]
  generalize right.toModel.unpack = rightUnpacked at *
  cases rightOperand <;> exact isNaN_pack_infinity _

theorem isNaN_div_finite_infinite (leftFinite : left.isFinite = true)
    (rightDefined : right.isNaN = false) (rightInfinite : right.isFinite = false) :
    (left / right).isNaN = false := by
  have leftOperand := operand leftFinite
  rw [div_eq_pack, unpack_of_infinite rightDefined rightInfinite]
  generalize left.toModel.unpack = leftUnpacked at *
  cases leftOperand <;> exact isNaN_pack_zero _

theorem isNaN_div_eq_false_iff (positive : 0 < right) :
    (left / right).isNaN = false ↔
      left.isNaN = false ∧ (left.isFinite = true ∨ right.isFinite = true) := by
  have rightDefined : right.isNaN = false := (lt_iff.mp positive).2.1
  cases leftUndefined : left.isNaN with
  | true => simp only [isNaN_div_of_isNaN (.inl leftUndefined), Bool.true_eq_false, false_and]
  | false =>
      cases leftFinite : left.isFinite with
      | true =>
          cases rightFinite : right.isFinite with
          | true =>
              have nonzero : toRat right ≠ 0 := by
                have more := (lt_iff_toRat (by decide) rightFinite).mp positive
                rw [toRat_zero (by decide)] at more
                exact more.ne'
              simp only [(isRounded_div leftFinite rightFinite nonzero).isNaN_eq_false, or_self,
                and_self]
          | false =>
              simp only [isNaN_div_finite_infinite leftFinite rightDefined rightFinite, true_or,
                and_self]
      | false =>
          cases rightFinite : right.isFinite with
          | true =>
              simp only [isNaN_div_infinite_finite leftUndefined leftFinite rightFinite, or_true,
                and_self]
          | false =>
              simp only [isNaN_div_infinite leftUndefined leftFinite rightDefined rightFinite,
                Bool.true_eq_false, Bool.false_eq_true, or_self, and_false]

end SignalReplay.Binary64
