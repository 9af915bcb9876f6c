import SignalReplay.Decimal.Binary64

/-!
Decimal numerals and the binary numbers they stand for.
-/

namespace SignalReplay

/-- The number `digits * 10 ^ exponent`, negated if `negative`. Zero keeps its sign. -/
structure Decimal where
  negative : Bool
  digits : Nat
  exponent : Int
deriving DecidableEq, Repr

namespace Decimal

/-- The pattern of the magnitude nearest to `digits * 10 ^ exponent`. The first two cases only
spare the work on powers of ten whose result is plain: above `10 ^ 400` everything but zero is
infinite, and below `2 ^ (-1080)` everything is zero. -/
def nearestBits (digits : Nat) (exponent : Int) : Nat :=
  if exponent > 400 then
    if digits = 0 then 0 else Binary64.infinityBits
  else if 3 * exponent + digits.log2 + 1 < -1080 then 0
  else Binary64.nearest (digits * Nat.pow 10 exponent.toNat) (Nat.pow 10 (-exponent).toNat)

def toFloat (decimal : Decimal) : Float :=
  Binary64.ofMagnitude decimal.negative (nearestBits decimal.digits decimal.exponent)

def ofWhole (value : Int) : Decimal :=
  ⟨value < 0, value.natAbs, 0⟩

/-! ## Digits in text -/

def isDigit (character : Char) : Bool :=
  '0' ≤ character && character ≤ '9'

def digitValue (character : Char) : Nat :=
  character.toNat - '0'.toNat

def valueOfDigits (digits : List Char) : Nat :=
  digits.foldl (fun value digit => 10 * value + digitValue digit) 0

def spanDigits (characters : List Char) : List Char × List Char :=
  (characters.takeWhile isDigit, characters.dropWhile isDigit)

/-- The decimal spelled by the digits before the point, those after it, and an exponent. -/
def ofParts (negative : Bool) (whole fraction : List Char) (exponent : Int) : Decimal where
  negative := negative
  digits := valueOfDigits (whole ++ fraction)
  exponent := exponent - fraction.length

example : ofParts false ['1'] ['2', '5'] 2 = ⟨false, 125, 0⟩ := by decide

end Decimal

end SignalReplay
