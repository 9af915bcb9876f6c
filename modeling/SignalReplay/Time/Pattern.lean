import SignalReplay.Text.Blank

/-!
Timestamp patterns. A pattern is a text in which a percent sign and a letter stand for a part of a
timestamp; `Pattern.ofText` splits it into items, each of which later reads its own part.
-/

namespace SignalReplay

inductive NumberField
  | year
  | century
  | yearOfCentury
  | isoYear
  | isoYearOfCentury
  | quarter
  | month
  | day
  | ordinal
  | weekFromSunday
  | weekFromMonday
  | isoWeek
  | weekdayFromSunday
  | weekdayFromMonday
  | hour
  | hourOfHalf
  | minute
  | second
  | nanosecond
  | unixSecond
deriving DecidableEq, Repr

namespace NumberField

/-- The greatest number of digits read; a Unix second has no such bound. -/
def width : NumberField → Option Nat
  | .year | .isoYear => some 4
  | .quarter | .weekdayFromSunday | .weekdayFromMonday => some 1
  | .ordinal => some 3
  | .nanosecond => some 9
  | .unixSecond => none
  | _ => some 2

/-- Whether a sign may precede the digits. With a sign, the number of digits has no bound. -/
def isSigned : NumberField → Bool
  | .year | .isoYear => true
  | _ => false

end NumberField

structure OffsetStyle where
  /-- Whether the letter Z may stand for no distance. -/
  letterZ : Bool
  /-- Whether the minutes may be left out. -/
  hoursAlone : Bool
deriving DecidableEq, Repr

inductive PatternItem
  /-- Characters that must stand in the text as they are. -/
  | literal (characters : List Char)
  /-- Any number of blanks, even none. -/
  | blanks
  | number (field : NumberField)
  /-- A month's name; `long` names may be written out or cut to three letters. -/
  | monthName (long : Bool)
  | weekdayName (long : Bool)
  /-- The letters AM or PM. -/
  | halfDay
  /-- A point and any number of digits, or nothing. -/
  | fraction
  /-- A point and exactly so many digits, or nothing. -/
  | pointedDigits (count : Nat)
  /-- Exactly so many digits of a fraction, without a point. -/
  | fractionDigits (count : Nat)
  /-- A time zone's name, which is passed over. -/
  | zoneName
  | offset (style : OffsetStyle)
  /-- The letter T or a space between date and time. -/
  | dateTimeMark
  /-- The letters UTC, or an offset. -/
  | zone
  /-- A percent sign that no known letter follows. -/
  | unknown
deriving DecidableEq, Repr

namespace PatternItem

def text (characters : String) : PatternItem :=
  .literal characters.toList

def clock : List PatternItem :=
  [.number .hour, text ":", .number .minute, text ":", .number .second]

def slashedDate : List PatternItem :=
  [.number .month, text "/", .number .day, text "/", .number .yearOfCentury]

def standardForm : List PatternItem :=
  [.number .year, .blanks, text "-", .number .month, .blanks, text "-", .number .day,
    .dateTimeMark,
    .number .hour, .blanks, text ":", .number .minute, .blanks, text ":", .number .second,
    .fraction, .blanks, .zone]

def ofLetter? : Char → Option (List PatternItem)
  | 'A' => some [.weekdayName true]
  | 'B' => some [.monthName true]
  | 'C' => some [.number .century]
  | 'D' | 'x' => some slashedDate
  | 'F' => some [.number .year, text "-", .number .month, text "-", .number .day]
  | 'G' => some [.number .isoYear]
  | 'H' | 'k' => some [.number .hour]
  | 'I' | 'l' => some [.number .hourOfHalf]
  | 'M' => some [.number .minute]
  | 'P' | 'p' => some [.halfDay]
  | 'R' => some [.number .hour, text ":", .number .minute]
  | 'S' => some [.number .second]
  | 'T' | 'X' => some clock
  | 'U' => some [.number .weekFromSunday]
  | 'V' => some [.number .isoWeek]
  | 'W' => some [.number .weekFromMonday]
  | 'Y' => some [.number .year]
  | 'Z' => some [.zoneName]
  | 'a' => some [.weekdayName false]
  | 'b' | 'h' => some [.monthName false]
  | 'c' =>
    some ([.weekdayName false, .blanks, .monthName false, .blanks, .number .day, .blanks] ++
      clock ++ [.blanks, .number .year])
  | 'd' | 'e' => some [.number .day]
  | 'f' => some [.number .nanosecond]
  | 'g' => some [.number .isoYearOfCentury]
  | 'j' => some [.number .ordinal]
  | 'm' => some [.number .month]
  | 'n' | 't' => some [.blanks]
  | 'q' => some [.number .quarter]
  | 'r' =>
    some ([.number .hourOfHalf, text ":", .number .minute, text ":", .number .second, .blanks,
      .halfDay])
  | 's' => some [.number .unixSecond]
  | 'u' => some [.number .weekdayFromMonday]
  | 'v' => some [.number .day, text "-", .monthName false, text "-", .number .year]
  | 'w' => some [.number .weekdayFromSunday]
  | 'y' => some [.number .yearOfCentury]
  | 'z' => some [.offset ⟨false, false⟩]
  | '+' => some standardForm
  | '%' => some [text "%"]
  | _ => none

/-- A letter after a padding mark, which only single numbers take. -/
def ofPaddedLetter? (letter : Char) : Option (List PatternItem) :=
  match ofLetter? letter with
  | some [.number field] => some [.number field]
  | _ => none

def ofSpecifier : List Char → List PatternItem × Nat
  | '-' :: letter :: _ | '0' :: letter :: _ | '_' :: letter :: _ =>
    ((ofPaddedLetter? letter).getD [.unknown], 2)
  | '#' :: 'z' :: _ => ([.offset ⟨true, true⟩], 2)
  | ':' :: ':' :: ':' :: 'z' :: _ => ([.offset ⟨false, false⟩], 4)
  | ':' :: ':' :: 'z' :: _ => ([.offset ⟨false, false⟩], 3)
  | ':' :: 'z' :: _ => ([.offset ⟨false, false⟩], 2)
  | '.' :: 'f' :: _ => ([.fraction], 2)
  | '.' :: '3' :: 'f' :: _ => ([.pointedDigits 3], 3)
  | '.' :: '6' :: 'f' :: _ => ([.pointedDigits 6], 3)
  | '.' :: '9' :: 'f' :: _ => ([.pointedDigits 9], 3)
  | '3' :: 'f' :: _ => ([.fractionDigits 3], 2)
  | '6' :: 'f' :: _ => ([.fractionDigits 6], 2)
  | '9' :: 'f' :: _ => ([.fractionDigits 9], 2)
  | letter :: _ => ((ofLetter? letter).getD [.unknown], 1)
  | [] => ([.unknown], 0)

def isLiteral (character : Char) : Bool :=
  character != '%' && !Text.isBlank character

end PatternItem

namespace Pattern

def ofText : List Char → List PatternItem
  | [] => []
  | character :: rest =>
    if character == '%' then
      let (items, taken) := PatternItem.ofSpecifier rest
      items ++ ofText (rest.drop taken)
    else if Text.isBlank character then
      .blanks :: ofText (rest.dropWhile Text.isBlank)
    else
      .literal (character :: rest.takeWhile PatternItem.isLiteral) ::
        ofText (rest.dropWhile PatternItem.isLiteral)
termination_by characters => characters.length
decreasing_by
  · simp only [List.length_cons, List.length_drop]; omega
  · have := (List.dropWhile_sublist (l := rest) Text.isBlank).length_le
    simp only [List.length_cons]; omega
  · have := (List.dropWhile_sublist (l := rest) PatternItem.isLiteral).length_le
    simp only [List.length_cons]; omega

end Pattern

end SignalReplay
