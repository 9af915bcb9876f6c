import SignalReplay.Decimal.Basic
import SignalReplay.Time.Fields

/-!
Reading a text by the items of a pattern. Each item takes its part from the front of the text and
names the fields it stands for. Lengths that decide between a text that ends too early and a text
with wrong characters are counted in UTF-8 bytes.
-/

namespace SignalReplay.TimeScan

open Text (trimStart utf8Length)

abbrev Result := Except TimeFault (TimeFields × List Char)

def greatestUnixSecond : Nat := 9223372036854775807

def number (least : Nat) (width : Option Nat) (text : List Char) :
    Except TimeFault (Nat × List Char) :=
  let reachable := match width with
    | some width => text.take width
    | none => text
  let digits := reachable.takeWhile Decimal.isDigit
  if utf8Length text < least then .error .tooShort
  else if digits.length < least then .error .malformed
  else
    let value := Decimal.valueOfDigits digits
    if greatestUnixSecond < value then .error .outOfRange
    else .ok (value, text.drop digits.length)

def signedNumber (width : Option Nat) (text : List Char) : Except TimeFault (Int × List Char) :=
  match text with
  | '-' :: rest => (number 1 none rest).map fun (value, rest) => (-(value : Int), rest)
  | '+' :: rest => (number 1 none rest).map fun (value, rest) => ((value : Int), rest)
  | _ => (number 1 width text).map fun (value, rest) => ((value : Int), rest)

def literal (characters text : List Char) : Except TimeFault (List Char) :=
  if utf8Length text < utf8Length characters then .error .tooShort
  else if characters.isPrefixOf text then .ok (text.drop characters.length)
  else .error .malformed

/-! ## Names -/

/-- The first three letters of a name and the letters that may follow them. -/
def monthNames : List (String × String) :=
  [("jan", "uary"), ("feb", "ruary"), ("mar", "ch"), ("apr", "il"), ("may", ""), ("jun", "e"),
    ("jul", "y"), ("aug", "ust"), ("sep", "tember"), ("oct", "ober"), ("nov", "ember"),
    ("dec", "ember")]

def weekdayNames : List (String × String) :=
  [("mon", "day"), ("tue", "sday"), ("wed", "nesday"), ("thu", "rsday"), ("fri", "day"),
    ("sat", "urday"), ("sun", "day")]

def beginsWith (letters : String) (text : List Char) : Bool :=
  letters.toList.isPrefixOf (text.map Char.toLower)

/-- The place of a name in a list of names, and the rest of the text. A `long` name may be written
out, and is then taken as a whole. -/
def name (names : List (String × String)) (long : Bool) (text : List Char) :
    Except TimeFault (Nat × List Char) :=
  if utf8Length text < 3 then .error .tooShort
  else
    match names.findIdx? fun (short, _) => beginsWith short text with
    | none => .error .malformed
    | some place =>
      let rest := text.drop 3
      let tail := (names[place]?.map Prod.snd).getD ""
      .ok (place, if long && beginsWith tail rest then rest.drop tail.length else rest)

def halfDay (text : List Char) : Except TimeFault (Nat × List Char) :=
  if utf8Length text < 2 then .error .tooShort
  else if beginsWith "am" text then .ok (0, text.drop 2)
  else if beginsWith "pm" text then .ok (1, text.drop 2)
  else .error .malformed

/-! ## Fractions -/

/-- Digits of a fraction in nanoseconds. Digits after the ninth are passed over. -/
def fraction (text : List Char) : Except TimeFault (Nat × List Char) := do
  let (value, rest) ← number 1 (some 9) text
  let digits := text.length - rest.length
  return (value * Nat.pow 10 (9 - digits), rest.dropWhile Decimal.isDigit)

def fractionDigits (count : Nat) (text : List Char) : Except TimeFault (Nat × List Char) := do
  let (value, rest) ← number count (some count) text
  return (value * Nat.pow 10 (9 - count), rest)

/-! ## Offsets -/

/-- Two digits, in a text that must be long enough for them. -/
def twoDigits (text : List Char) : Except TimeFault (Nat × List Char) :=
  if utf8Length text < 2 then .error .tooShort
  else
    match text with
    | tens :: ones :: rest =>
      if Decimal.isDigit tens && Decimal.isDigit ones then
        .ok (10 * Decimal.digitValue tens + Decimal.digitValue ones, rest)
      else .error .malformed
    | _ => .error .malformed

def offsetSign : List Char → Except TimeFault (Bool × List Char)
  | '+' :: rest => .ok (false, rest)
  | '-' :: rest | '−' :: rest => .ok (true, rest)
  | _ :: _ => .error .malformed
  | [] => .error .tooShort

/-- The minutes of an offset. Where they may be left out, the text must end. -/
def offsetMinutes (style : OffsetStyle) (text : List Char) :
    Except TimeFault (Nat × List Char) :=
  if utf8Length text < 2 && style.hoursAlone then
    if text.isEmpty then .ok (0, []) else .error .tooShort
  else do
    let (minutes, rest) ← twoDigits text
    if minutes < 60 then .ok (minutes, rest) else .error .outOfRange

def offset (style : OffsetStyle) (text : List Char) : Except TimeFault (Int × List Char) := do
  if style.letterZ && (beginsWith "z" text) then .ok (0, text.drop 1)
  else
    let (negative, rest) ← offsetSign text
    let (hours, rest) ← twoDigits rest
    let rest := rest.dropWhile fun character => character == ':' || Text.isBlank character
    let (minutes, rest) ← offsetMinutes style rest
    let seconds : Int := hours * 3600 + minutes * 60
    .ok (if negative then -seconds else seconds, rest)

/-! ## Items -/

def item (fields : TimeFields) (text : List Char) : PatternItem → Result
  | .literal characters => do return (fields, ← literal characters text)
  | .blanks => .ok (fields, trimStart text)
  | .number field => do
    let text := trimStart text
    let (value, rest) ←
      if field.isSigned then signedNumber field.width text
      else (number 1 field.width text).map fun (value, rest) => ((value : Int), rest)
    return (← fields.put field value, rest)
  | .monthName long => do
    let (place, rest) ← name monthNames long text
    return (← fields.putMonth (place + 1), rest)
  | .weekdayName long => do
    let (place, rest) ← name weekdayNames long text
    return (← fields.putWeekday (.ofFromMonday place), rest)
  | .halfDay => do
    let (half, rest) ← halfDay text
    return (← fields.putHalfOfDay half, rest)
  | .fraction =>
    match text with
    | '.' :: rest => do
      let (nano, rest) ← fraction rest
      return (← fields.putNanosecond nano, rest)
    | _ => .ok (fields, text)
  | .pointedDigits count =>
    match text with
    | '.' :: rest => do
      let (nano, rest) ← fractionDigits count rest
      return (← fields.putNanosecond nano, rest)
    | _ => .ok (fields, text)
  | .fractionDigits count => do
    let (nano, rest) ← fractionDigits count text
    return (← fields.putNanosecond nano, rest)
  | .zoneName => .ok (fields, text.dropWhile fun character => !Text.isBlank character)
  | .offset style => do
    let (seconds, rest) ← offset style (trimStart text)
    return (← fields.putOffset seconds, rest)
  | .dateTimeMark =>
    match text with
    | 'T' :: rest | 't' :: rest | ' ' :: rest => .ok (fields, rest)
    | _ :: _ => .error .malformed
    | [] => .error .tooShort
  | .zone => do
    let text := trimStart text
    if beginsWith "utc" text then return (← fields.putOffset 0, text.drop 3)
    else
      let (seconds, rest) ← offset ⟨true, false⟩ text
      return (← fields.putOffset seconds, rest)
  | .unknown => .error .unknownPattern

def items (fields : TimeFields) (text : List Char) : List PatternItem → Result
  | [] => .ok (fields, text)
  | next :: rest => do
    let (fields, text) ← item fields text next
    items fields text rest

def fields (pattern : List PatternItem) (text : List Char) : Except TimeFault TimeFields := do
  let (fields, rest) ← items {} text pattern
  if rest.isEmpty then .ok fields else .error .trailing

end SignalReplay.TimeScan
