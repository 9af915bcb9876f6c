import SignalReplay.Decimal.Basic
import SignalReplay.Decimal.Quantity

/-!
Numbers as people type them into tables: an optional sign, then digits with an optional point and
an optional exponent, or the words for infinity and for no number.
-/

namespace SignalReplay

inductive NumeralFault
  | empty
  | malformed
deriving DecidableEq, Repr

def NumeralFault.message : NumeralFault → String
  | .empty => "cannot parse float from empty string"
  | .malformed => "invalid float literal"

namespace Numeral

def sign : List Char → Bool × List Char
  | '-' :: rest => (true, rest)
  | '+' :: rest => (false, rest)
  | characters => (false, characters)

/-- The exponent that ends a numeral; no exponent stands for zero. -/
def exponent? : List Char → Option Int
  | [] => some 0
  | mark :: rest =>
    if mark == 'e' || mark == 'E' then
      let (negative, digits) := sign rest
      if digits.isEmpty || !digits.all Decimal.isDigit then none
      else
        let value : Int := Decimal.valueOfDigits digits
        some (if negative then -value else value)
    else none

/-- Digits with an optional point, at least one digit on either side of it, and an optional
exponent. -/
def decimal? (negative : Bool) (characters : List Char) : Option Decimal :=
  let (whole, rest) := Decimal.spanDigits characters
  let (fraction, rest) :=
    match rest with
    | '.' :: after => Decimal.spanDigits after
    | _ => ([], rest)
  if whole.isEmpty && fraction.isEmpty then none
  else (exponent? rest).map (Decimal.ofParts negative whole fraction)

def word (characters : List Char) : String :=
  String.ofList (characters.map Char.toLower)

def infinity : Float := 1.0 / 0.0

def notANumber : Float := 0.0 / 0.0

def read (text : String) : Except NumeralFault Quantity :=
  if text.isEmpty then .error .empty
  else
    let (negative, body) := sign text.toList
    match word body with
    | "inf" | "infinity" => .ok (.ofFloat (if negative then -infinity else infinity))
    | "nan" => .ok (.withSign negative notANumber)
    | _ =>
      match decimal? negative body with
      | some decimal => .ok (.ofFloat decimal.toFloat)
      | none => .error .malformed

end Numeral

end SignalReplay
