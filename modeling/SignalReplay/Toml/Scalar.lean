import SignalReplay.Time.Calendar
import SignalReplay.Toml.Text
import SignalReplay.Toml.Value

/-!
TOML numbers, truth values and moments. Each is a run of characters that ends before the next
space, bracket, brace or comma; only a date may be followed by a space and a time of day.
-/

namespace SignalReplay.Toml

def isWordCharacter (character : Char) : Bool :=
  character.isAlphanum || character == '_' || character == '+' || character == '-' ||
    character == '.' || character == ':'

def sign : List Char → Bool × List Char
  | '-' :: rest => (true, rest)
  | '+' :: rest => (false, rest)
  | characters => (false, characters)

/-! ## Numbers -/

def wholeDigits? (characters : List Char) : Option (List Char) := do
  let digits ← groupedDigits? Decimal.isDigit characters
  match digits with
  | '0' :: _ :: _ => none
  | _ => some digits

def withinWord? (value : Int) : Option Value :=
  if -0x8000000000000000 ≤ value && value < 0x8000000000000000 then some (.whole value)
  else none

def wholeInBase? (base : Nat) (characters : List Char) : Option Value := do
  let digits ← groupedDigits? Char.isAlphanum characters
  withinWord? (← valueInBase? base digits)

/-- A whole number; in other bases than ten it has no sign. -/
def whole? : List Char → Option Value
  | '0' :: 'x' :: rest => wholeInBase? 16 rest
  | '0' :: 'o' :: rest => wholeInBase? 8 rest
  | '0' :: 'b' :: rest => wholeInBase? 2 rest
  | word => do
    let (negative, digits) := sign word
    let value : Int := Decimal.valueOfDigits (← wholeDigits? digits)
    withinWord? (if negative then -value else value)

def isExponentMark (character : Char) : Bool :=
  character == 'e' || character == 'E'

def exponent? (characters : List Char) : Option Int := do
  let (negative, digits) := sign characters
  let value : Int := Decimal.valueOfDigits (← groupedDigits? Decimal.isDigit digits)
  return if negative then -value else value

def decimal? (word : List Char) : Option Decimal := do
  let (negative, unsigned) := sign word
  let isPart (character : Char) := Decimal.isDigit character || character == '_'
  let whole ← wholeDigits? (unsigned.takeWhile isPart)
  match unsigned.dropWhile isPart with
  | '.' :: rest =>
    let fraction ← groupedDigits? Decimal.isDigit (rest.takeWhile isPart)
    match rest.dropWhile isPart with
    | [] => return .ofParts negative whole fraction 0
    | mark :: exponent =>
      if isExponentMark mark then
        return .ofParts negative whole fraction (← exponent? exponent)
      else none
  | mark :: exponent =>
    if isExponentMark mark then return .ofParts negative whole [] (← exponent? exponent)
    else none
  | [] => none

/-- A floating-point number. Too great a numeral is refused, but too small a negative one is
negative infinity. -/
def real? (word : List Char) : Option Value := do
  let infinity := Float.ofBits (UInt64.ofNat Binary64.infinityBits)
  match sign word with
  | (negative, ['i', 'n', 'f']) => return .real (if negative then -infinity else infinity)
  | (_, ['n', 'a', 'n']) => return .real (0.0 / 0.0)
  | _ =>
    let value := (← decimal? word).toFloat
    if value == infinity then none else return .real value

/-! ## Moments -/

def digits? (count : Nat) : Scanner Nat :=
  fun input =>
    let digits := input.take count
    if digits.length = count && digits.all Decimal.isDigit then
      some (Decimal.valueOfDigits digits, input.drop count)
    else none

def date? (input : List Char) : Option (List Char) := do
  let (year, rest) ← digits? 4 input
  let (month, rest) ← digits? 2 (← Scanner.expect? '-' rest)
  let (day, rest) ← digits? 2 (← Scanner.expect? '-' rest)
  discard (Date.ofYearMonthDay? year month day)
  return rest

def hourAndMinute? (input : List Char) : Option (List Char) := do
  let (hour, rest) ← digits? 2 input
  let (minute, rest) ← digits? 2 (← Scanner.expect? ':' rest)
  if hour < 24 && minute < 60 then some rest else none

/-- Check a time of day. A minute may have a leap second. -/
def timeOfDay? (input : List Char) : Option (List Char) := do
  let rest ← hourAndMinute? input
  let (second, rest) ← digits? 2 (← Scanner.expect? ':' rest)
  if 60 < second then none
  else
    match rest with
    | '.' :: fraction =>
      let (digits, rest) := Decimal.spanDigits fraction
      if digits.isEmpty then none else some rest
    | _ => some rest

def zonedTime? (input : List Char) : Option (List Char) := do
  match ← timeOfDay? input with
  | 'Z' :: rest | 'z' :: rest => some rest
  | '+' :: rest | '-' :: rest => hourAndMinute? rest
  | rest => some rest

def isMoment (word : List Char) : Bool :=
  match date? word with
  | some [] => true
  | some ('T' :: time) | some ('t' :: time) => zonedTime? time == some []
  | some _ => false
  | none => timeOfDay? word == some []

/-! ## Words -/

def scalar? (word : List Char) : Option Value :=
  match word with
  | ['t', 'r', 'u', 'e'] => some (.boolean true)
  | ['f', 'a', 'l', 's', 'e'] => some (.boolean false)
  | _ => if isMoment word then some .moment else (real? word).or (whole? word)

/-- The time of day after a date and one space, if there is one. -/
def skipTimeAfterDate (word rest : List Char) : List Char :=
  match date? word, rest with
  | some [], ' ' :: after =>
    if zonedTime? (after.takeWhile isWordCharacter) == some [] then
      after.dropWhile isWordCharacter
    else rest
  | _, _ => rest

def scalar : Scanner Value :=
  fun input => do
    let word := input.takeWhile isWordCharacter
    let value ← scalar? word
    return (value, skipTimeAfterDate word (input.dropWhile isWordCharacter))

end SignalReplay.Toml
