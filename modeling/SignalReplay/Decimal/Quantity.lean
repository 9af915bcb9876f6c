import SignalReplay.Decimal.Binary64

/-!
Quantities: floating-point numbers in which an undefined value still carries a sign, as its bits
do. No figure and no comparison shows that sign; it matters where the bits themselves do, in
fingerprints and in the total order.
-/

namespace SignalReplay

structure Quantity where
  value : Float
  /-- Whether the value is undefined and its sign bit is set. -/
  negativeUndefined : Bool
  isNaN_of_negativeUndefined : negativeUndefined = true → value.isNaN = true
deriving DecidableEq

namespace Quantity

/-- A number; an undefined value carries no minus sign. -/
def ofFloat (value : Float) : Quantity :=
  ⟨value, false, by simp⟩

def withSign (negative : Bool) (value : Float) : Quantity :=
  if undefined : value.isNaN = true then ⟨value, negative, fun _ => undefined⟩
  else ofFloat value

@[simp]
theorem value_ofFloat (value : Float) : (ofFloat value).value = value := rfl

@[simp]
theorem value_withSign (negative : Bool) (value : Float) :
    (withSign negative value).value = value := by
  unfold withSign
  split <;> rfl

/-! ## Arithmetic -/

/-- The sign of an undefined result: that of the first operand that is itself undefined, and minus
if the operation is undefined for its operands. -/
def resultSign (left right : Quantity) : Bool :=
  if left.value.isNaN then left.negativeUndefined
  else if right.value.isNaN then right.negativeUndefined
  else true

instance : Add Quantity where
  add left right := withSign (resultSign left right) (left.value + right.value)

instance : Sub Quantity where
  sub left right := withSign (resultSign left right) (left.value - right.value)

instance : Div Quantity where
  div left right := withSign (resultSign left right) (left.value / right.value)

@[simp]
theorem value_add (left right : Quantity) : (left + right).value = left.value + right.value :=
  value_withSign _ _

@[simp]
theorem value_sub (left right : Quantity) : (left - right).value = left.value - right.value :=
  value_withSign _ _

@[simp]
theorem value_div (left right : Quantity) : (left / right).value = left.value / right.value :=
  value_withSign _ _

/-! ## Bits -/

def bits (quantity : Quantity) : Nat :=
  quantity.value.toBits.toNat + if quantity.negativeUndefined then Binary64.signBit else 0

example : (withSign true (0.0 / 0.0)).bits = 0xFFF8000000000000 := by decide

/-- The bits as a whole number that orders all quantities: undefined ones with a minus sign,
negative numbers, negative zero, zero, positive numbers, and undefined ones without a sign. -/
def totalOrderKey (quantity : Quantity) : Int :=
  if quantity.bits < Binary64.signBit then quantity.bits
  else Binary64.signBit - (quantity.bits : Int) - 1

example :
    (withSign true (0.0 / 0.0)).totalOrderKey < (ofFloat (-1.0 / 0.0)).totalOrderKey := by decide

end Quantity

end SignalReplay
