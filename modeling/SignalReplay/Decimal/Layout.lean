import SignalReplay.Decimal.Shortest

/-!
How shortest digits are laid out. A `Layout` holds what one kind of output decides: which
exponents are written with a point alone, how whole numbers end, and how an exponent is marked.
-/

namespace SignalReplay.Decimal

structure Layout where
  /-- The least power of ten of a leading digit that is written with a point alone. -/
  leastPositional : Option Int
  /-- The greatest such power. -/
  greatestPositional : Option Int
  /-- What follows a whole number written with a point alone. -/
  wholeTail : List Char
  /-- Whether a positive exponent carries a plus sign. -/
  exponentPlus : Bool
  tie : Tie

/-- Digits with the point after the first `before` of them, or with zeros where there are none. -/
def positional (wholeTail digits : List Char) (before : Int) : List Char :=
  if before ≤ 0 then
    ['0', '.'] ++ List.replicate (-before).toNat '0' ++ digits
  else if digits.length ≤ before then
    digits ++ List.replicate (before.toNat - digits.length) '0' ++ wholeTail
  else
    digits.take before.toNat ++ ['.'] ++ digits.drop before.toNat

def scientific (exponentPlus : Bool) (digits : List Char) (exponent : Int) : List Char :=
  let fraction := digits.drop 1
  let mark :=
    if exponent < 0 then ['-'] else if exponentPlus then ['+'] else []
  digits.take 1 ++ (if fraction.isEmpty then [] else '.' :: fraction) ++
    ['e'] ++ mark ++ Nat.toDigits 10 exponent.natAbs

namespace Layout

def isPositional (layout : Layout) (power : Int) : Bool :=
  layout.leastPositional.all (· ≤ power) && layout.greatestPositional.all (power ≤ ·)

def magnitude (layout : Layout) (bits : Nat) : List Char :=
  if bits = 0 then '0' :: layout.wholeTail
  else
    let (digits, exponent) := shortest layout.tie bits
    let spelled := Nat.toDigits 10 digits
    let power := exponent + spelled.length - 1
    let trimmed := (spelled.reverse.dropWhile (· == '0')).reverse
    if layout.isPositional power then
      positional layout.wholeTail trimmed (power + 1)
    else
      scientific layout.exponentPlus trimmed power

def write (layout : Layout) (value : Float) : String :=
  if value.isNaN then "NaN"
  else
    let bits := Binary64.magnitudeBits value
    let body :=
      if bits = Binary64.infinityBits then ['i', 'n', 'f'] else layout.magnitude bits
    String.ofList (if Binary64.isNegative value then '-' :: body else body)

end Layout

end SignalReplay.Decimal
