import SignalReplay.Decimal.Shortest

/-!
Numbers with a fixed count of decimal places. The exact binary value is rounded; a value halfway
between two numerals goes to the even one, and the sign is kept even where only zeros remain.
-/

namespace SignalReplay.Decimal

def inUnits (places bits : Nat) : Nat :=
  let (digits, exponent) := exactDigits bits
  Binary64.divideToEven (digits * Nat.pow 10 (exponent + places).toNat)
    (Nat.pow 10 (-(exponent + places)).toNat)

def writeUnits (places units : Nat) : List Char :=
  let spelled := Nat.toDigits 10 units
  let padded := List.replicate (places + 1 - spelled.length) '0' ++ spelled
  let whole := padded.length - places
  padded.take whole ++ (if places = 0 then [] else '.' :: padded.drop whole)

example : writeUnits 2 5 = ['0', '.', '0', '5'] := by decide

def fixed (places : Nat) (value : Float) : String :=
  if value.isNaN then "NaN"
  else
    let bits := Binary64.magnitudeBits value
    let body :=
      if bits = Binary64.infinityBits then ['i', 'n', 'f']
      else writeUnits places (inUnits places bits)
    String.ofList (if Binary64.isNegative value then '-' :: body else body)

end SignalReplay.Decimal
