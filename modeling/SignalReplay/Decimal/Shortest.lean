import SignalReplay.Decimal.Basic

/-!
The fewest decimal digits that still name a binary number: of all numerals that read back as the
number, the ones with the fewest digits, and of those the nearest to it.
-/

namespace SignalReplay.Decimal

/-- Which of two numerals is taken when the number lies exactly between them. -/
inductive Tie
  | even
  | up
deriving DecidableEq, Repr

def exactDigits (bits : Nat) : Nat × Int :=
  let exponent := Binary64.exponent bits
  (Binary64.significand bits * Nat.pow 2 exponent.toNat * Nat.pow 5 (-exponent).toNat,
    min exponent 0)

def digitCount (digits : Nat) : Nat :=
  (Nat.toDigits 10 digits).length

/-- Cut the last `dropped` digits off an exact numeral and take the lower or the upper neighbour,
provided that it reads back as the magnitude. -/
def shorten? (tie : Tie) (bits exact : Nat) (exponent : Int) (dropped : Nat) :
    Option (Nat × Int) :=
  let scale := Nat.pow 10 dropped
  let below := exact / scale
  let shortened := exponent + dropped
  let readsBack (digits : Nat) := nearestBits digits shortened == bits
  match readsBack below, readsBack (below + 1) with
  | false, false => none
  | true, false => some (below, shortened)
  | false, true => some (below + 1, shortened)
  | true, true =>
    match compare (2 * (exact % scale)) scale, tie with
    | .lt, _ => some (below, shortened)
    | .gt, _ => some (below + 1, shortened)
    | .eq, .even => some (below + below % 2, shortened)
    | .eq, .up => some (below + 1, shortened)

/-- The shortest digits and their exponent. Keeping all digits of the exact numeral always reads
back, so the search ends with that at the latest. -/
def shortest (tie : Tie) (bits : Nat) : Nat × Int :=
  let (exact, exponent) := exactDigits bits
  let count := digitCount exact
  ((List.range count).findSome? fun kept =>
    shorten? tie bits exact exponent (count - 1 - kept)).getD (exact, exponent)

end SignalReplay.Decimal
