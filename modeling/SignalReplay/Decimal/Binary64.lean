/-!
Binary floating-point magnitudes as whole numbers. A finite magnitude with bit pattern `bits` has
the value `significand bits * 2 ^ exponent bits`, larger patterns have larger values, and
`nearest` finds the pattern whose value lies nearest to a quotient.
-/

namespace SignalReplay.Binary64

/-- The bit pattern of positive infinity; every smaller pattern is a finite magnitude. -/
def infinityBits : Nat := 0x7FF0000000000000

def signBit : Nat := 0x8000000000000000

/-- The leading bit of a significand, which only the least magnitudes lack and which is not part of
the pattern. -/
def leadingBit : Nat := 0x10000000000000

def magnitudeBits (value : Float) : Nat :=
  value.toBits.toNat % signBit

def isNegative (value : Float) : Bool :=
  signBit ≤ value.toBits.toNat

def significand (bits : Nat) : Nat :=
  if bits < leadingBit then bits else bits % leadingBit + leadingBit

def exponent (bits : Nat) : Int :=
  (max (bits / leadingBit) 1 : Nat) - 1075

/-- Divide and round to the nearest whole number; a tie goes to the even neighbour. -/
def divideToEven (numerator denominator : Nat) : Nat :=
  let quotient := numerator / denominator
  match compare (2 * (numerator % denominator)) denominator with
  | .lt => quotient
  | .eq => quotient + quotient % 2
  | .gt => quotient + 1

/-- The greatest exponent at which `numerator / denominator` still takes all 53 digits of a
significand. -/
def unitExponent (numerator denominator : Nat) : Int :=
  let estimate : Int := (numerator.log2 : Int) - denominator.log2 - 52
  if denominator * Nat.pow 2 (52 + estimate).toNat ≤
    numerator * Nat.pow 2 (-(52 + estimate)).toNat then estimate
  else estimate - 1

/-- The pattern of the magnitude nearest to `numerator / denominator`; a tie goes to the even
significand, and quotients beyond the greatest finite magnitude become infinite. -/
def nearest (numerator denominator : Nat) : Nat :=
  if numerator = 0 then 0
  else
    let unit := max (unitExponent numerator denominator) (-1074)
    let rounded := divideToEven (numerator * Nat.pow 2 (-unit).toNat)
      (denominator * Nat.pow 2 unit.toNat)
    min ((unit + 1074).toNat * leadingBit + rounded) infinityBits

def ofMagnitude (negative : Bool) (bits : Nat) : Float :=
  let magnitude := Float.ofBits (UInt64.ofNat bits)
  if negative then -magnitude else magnitude

end SignalReplay.Binary64
