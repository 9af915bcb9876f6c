import SignalReplay.Decimal.Binary64

/-!
Rounding a number to decimal places by scaling it up, rounding to a whole number and scaling it
down again. Each step is binary arithmetic and may round on its own.
-/

namespace SignalReplay.Decimal

/-- The nearest whole number; a half goes away from zero. The sign of zero is kept. -/
def roundHalfAway (value : Float) : Float :=
  let bits := Binary64.magnitudeBits value
  let exponent := Binary64.exponent bits
  if Binary64.infinityBits ≤ bits || 0 ≤ exponent then value
  else
    let unit := Nat.pow 2 (-exponent).toNat
    let whole := (2 * Binary64.significand bits + unit) / (2 * unit)
    Binary64.ofMagnitude (Binary64.isNegative value) (Binary64.nearest whole 1)

/-- `product * base ^ power` by repeated squaring. -/
def powerTimes (product base : Float) (power : Nat) : Float :=
  let product := if power % 2 = 1 then product * base else product
  if power / 2 = 0 then product else powerTimes product (base * base) (power / 2)
termination_by power
decreasing_by omega

def tenToThe (power : Int) : Float :=
  let product := powerTimes 1.0 10.0 power.natAbs
  if power < 0 then 1.0 / product else product

/-- Round to a count of decimal places. Counts are words of 32 bits; those from `2 ^ 31` on stand
for negative powers of ten. -/
def roundTo (value : Float) (decimals : UInt32) : Float :=
  let factor := tenToThe decimals.toInt32.toInt
  roundHalfAway (value * factor) / factor

end SignalReplay.Decimal
