import SignalReplay.Proofs.Binary64.Order

/-!
Negated numbers. Negation turns the order around, and the difference of two negated numbers is the
difference of the numbers the other way about, down to the sign of a zero.
-/

namespace SignalReplay.Binary64

open Float.Model Float.Model.UnpackedFloat

/-! ## Unpacked numbers -/

@[simp]
theorem apply_neg (sign : Sign) (mantissa : Int) :
    (-sign).apply mantissa = -sign.apply mantissa := by
  cases sign with
  | positive => rfl
  | negative => exact (Int.neg_neg mantissa).symm

theorem sub_neg_finite (leftSign rightSign : Sign) (leftMantissa rightMantissa : Nat)
    (leftExponent rightExponent : Int) (leftPositive : 0 < leftMantissa)
    (rightPositive : 0 < rightMantissa) :
    sub Format.binary64 (.finite (-leftSign) leftMantissa leftExponent leftPositive)
        (.finite (-rightSign) rightMantissa rightExponent rightPositive) =
      sub Format.binary64 (.finite rightSign rightMantissa rightExponent rightPositive)
        (.finite leftSign leftMantissa leftExponent leftPositive) := by
  simp only [UnpackedFloat.sub, apply_neg, Int.min_comm rightExponent leftExponent]
  congr 1
  omega

theorem sub_neg (left right : UnpackedFloat) :
    sub Format.binary64 left.neg right.neg = sub Format.binary64 right left := by
  cases left with
  | notANumber => cases right <;> rfl
  | infinity leftSign =>
      cases right with
      | infinity rightSign => cases leftSign <;> cases rightSign <;> rfl
      | _ => rfl
  | zero leftSign =>
      cases right with
      | zero rightSign => cases leftSign <;> cases rightSign <;> rfl
      | infinity rightSign => cases rightSign <;> rfl
      | finite rightSign => cases rightSign <;> rfl
      | notANumber => rfl
  | finite leftSign leftMantissa leftExponent leftPositive =>
      cases right with
      | finite rightSign rightMantissa rightExponent rightPositive =>
          exact sub_neg_finite _ _ _ _ _ _ _ _
      | infinity rightSign => cases rightSign <;> rfl
      | _ => rfl

/-! ## Numbers -/

@[simp]
theorem isNaN_neg (value : Float) : (-value).isNaN = value.isNaN := by
  cases undefined : value.isNaN with
  | false =>
      rw [isNaN_eq, (fields_neg undefined).2, ← isNaN_eq, undefined]
  | true =>
      have same : -value = Float.ofModel (Float.Model.pack value.toModel.unpack.neg) := rfl
      rw [isNaN_eq, decide_eq_true_eq] at undefined
      rw [same, unpack_toModel, unpacked_undefined _ undefined]
      decide

@[simp]
theorem unpack_neg (value : Float) :
    (-value).toModel.unpack = value.toModel.unpack.neg := by
  cases undefined : value.isNaN with
  | false =>
      rw [unpack_toModel, unpack_toModel, (fields_neg undefined).1, (fields_neg undefined).2,
        neg_unpacked]
  | true =>
      have negatedUndefined := isNaN_neg value
      rw [undefined, isNaN_eq, decide_eq_true_eq] at negatedUndefined
      rw [isNaN_eq, decide_eq_true_eq] at undefined
      rw [unpack_toModel, unpack_toModel, unpacked_undefined _ undefined,
        unpacked_undefined _ negatedUndefined]
      rfl

@[simp]
theorem sub_negated (left right : Float) : -left - -right = right - left := by
  have negated : -left - -right = Float.ofModel (Float.Model.pack
    (sub Format.binary64 (-left).toModel.unpack (-right).toModel.unpack)) := rfl
  rw [negated, unpack_neg, unpack_neg, sub_neg]
  rfl

theorem orderKey_neg {value : Float} (defined : value.isNaN = false) :
    orderKey (-value) = -orderKey value := by
  rw [orderKey, orderKey, (fields_neg defined).1, (fields_neg defined).2]
  cases isNegative value with
  | false => rfl
  | true => exact (Int.neg_neg _).symm

@[simp]
theorem negated_lt_iff {left right : Float} : -left < -right ↔ right < left := by
  rw [lt_iff, lt_iff, isNaN_neg, isNaN_neg]
  grind [orderKey_neg]

@[simp]
theorem negated_le_iff {left right : Float} : -left ≤ -right ↔ right ≤ left := by
  rw [le_iff, le_iff, isNaN_neg, isNaN_neg]
  grind [orderKey_neg]

end SignalReplay.Binary64
