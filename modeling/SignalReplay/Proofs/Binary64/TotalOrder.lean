import SignalReplay.Decimal.Quantity
import SignalReplay.Proofs.Binary64.Order

/-!
The total order of quantities. Between values that are not undefined it is the order of numbers,
except that it tells the zeros apart.
-/

namespace SignalReplay

namespace Binary64

inductive IsBelow (left right : Float) : Prop
  | less (less : left < right) : IsBelow left right
  | zeros (negativeZero : left = -0.0) (zero : right = 0.0) : IsBelow left right

theorem eq_negativeZero_iff {value : Float} :
    value = -0.0 ↔ isNegative value = true ∧ magnitudeBits value = 0 := by
  constructor
  · rintro rfl
    decide
  · rintro ⟨negative, magnitude⟩
    apply ext_fields
    · rw [negative]
      decide
    · rw [magnitude]
      decide

theorem eq_zero_iff {value : Float} :
    value = 0.0 ↔ isNegative value = false ∧ magnitudeBits value = 0 := by
  constructor
  · rintro rfl
    decide
  · rintro ⟨positive, magnitude⟩
    apply ext_fields
    · rw [positive]
      decide
    · rw [magnitude]
      decide

end Binary64

namespace Quantity

open Binary64

variable {quantity left right : Quantity}

/-- The place of a value that is not undefined: negative ones are counted downwards from negative
zero, which comes right below zero. -/
theorem totalOrderKey_of_defined (defined : quantity.value.isNaN = false) :
    quantity.totalOrderKey =
      if isNegative quantity.value then -(magnitudeBits quantity.value : Int) - 1
      else magnitudeBits quantity.value := by
  have plain : quantity.negativeUndefined = false := by
    by_contra signed
    rw [Bool.not_eq_false] at signed
    rw [quantity.isNaN_of_negativeUndefined signed] at defined
    contradiction
  have small : magnitudeBits quantity.value < signBit := Nat.mod_lt _ (by decide)
  rw [totalOrderKey, bits, plain, toBits_eq_word, word]
  cases isNegative quantity.value with
  | true =>
      simp only [if_true, Bool.false_eq_true, if_false]
      rw [if_neg (by omega)]
      omega
  | false =>
      simp only [Bool.false_eq_true, if_false]
      rw [if_pos (by omega)]
      omega

theorem totalOrderKey_lt_iff (leftDefined : left.value.isNaN = false)
    (rightDefined : right.value.isNaN = false) :
    left.totalOrderKey < right.totalOrderKey ↔ IsBelow left.value right.value := by
  have below : IsBelow left.value right.value ↔ left.value < right.value ∨
      left.value = -0.0 ∧ right.value = 0.0 := by
    constructor
    · rintro (less | ⟨negativeZero, zero⟩)
      · exact .inl less
      · exact .inr ⟨negativeZero, zero⟩
    · rintro (less | ⟨negativeZero, zero⟩)
      · exact .less less
      · exact .zeros negativeZero zero
  rw [below, lt_iff, eq_negativeZero_iff, eq_zero_iff, totalOrderKey_of_defined leftDefined,
    totalOrderKey_of_defined rightDefined]
  simp only [leftDefined, rightDefined, true_and, orderKey, signedBits]
  cases isNegative left.value <;> cases isNegative right.value <;> simp <;> omega

theorem value_eq_of_totalOrderKey_eq (leftDefined : left.value.isNaN = false)
    (rightDefined : right.value.isNaN = false)
    (equal : left.totalOrderKey = right.totalOrderKey) : left.value = right.value := by
  rw [totalOrderKey_of_defined leftDefined, totalOrderKey_of_defined rightDefined] at equal
  have fields : isNegative left.value = isNegative right.value ∧
      magnitudeBits left.value = magnitudeBits right.value := by
    cases leftSign : isNegative left.value <;> cases rightSign : isNegative right.value <;>
      simp [leftSign, rightSign] at equal ⊢ <;> omega
  exact ext_fields fields.1 fields.2

end Quantity

end SignalReplay
