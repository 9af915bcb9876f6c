/-!
The Gregorian calendar, extended to all years. A date is the number of days since 1970-01-01;
year, month, day, ordinal, weekday and ISO week are views of it.
-/

namespace SignalReplay

inductive Weekday
  | monday
  | tuesday
  | wednesday
  | thursday
  | friday
  | saturday
  | sunday
deriving DecidableEq, Repr

namespace Weekday

def fromMonday : Weekday → Nat
  | .monday => 0
  | .tuesday => 1
  | .wednesday => 2
  | .thursday => 3
  | .friday => 4
  | .saturday => 5
  | .sunday => 6

def ofFromMonday (days : Nat) : Weekday :=
  match days % 7 with
  | 0 => .monday
  | 1 => .tuesday
  | 2 => .wednesday
  | 3 => .thursday
  | 4 => .friday
  | 5 => .saturday
  | _ => .sunday

def daysSince (weekday start : Weekday) : Nat :=
  (weekday.fromMonday + 7 - start.fromMonday) % 7

example : daysSince .monday .sunday = 1 := rfl

end Weekday

namespace Calendar

def isLeapYear (year : Int) : Bool :=
  year % 4 == 0 && (year % 100 != 0 || year % 400 == 0)

def yearLength (year : Int) : Nat :=
  if isLeapYear year then 366 else 365

def monthLengths (year : Int) : List Nat :=
  [31, if isLeapYear year then 29 else 28, 31, 30, 31, 30, 31, 31, 30, 31, 30, 31]

def firstDayOfYear (year : Int) : Int :=
  let past := year - 1
  365 * past + past / 4 - past / 100 + past / 400 - 719162

example : firstDayOfYear 1970 = 0 := rfl

def firstYear : Int := -262143

def lastYear : Int := 262142

end Calendar

structure Date where
  day : Int
deriving DecidableEq, Repr

namespace Date

open Calendar

/-- The year of a date. Whole cycles of 400 years are taken off first; the last day of a cycle, or
of four years, still belongs to the year before, which the bounds of 3 account for. -/
def year (date : Date) : Int :=
  let days := date.day + 719162
  let cycle := days / 146097
  let inCycle := days % 146097
  let century := min (inCycle / 36524) 3
  let inCentury := inCycle - 36524 * century
  let four := inCentury / 1461
  let inFour := inCentury % 1461
  400 * cycle + 100 * century + 4 * four + min (inFour / 365) 3 + 1

def ordinal (date : Date) : Nat :=
  (date.day - firstDayOfYear date.year).toNat + 1

/-- Walk through months of the given lengths: the month, counted from `month`, and the day of
month that an ordinal falls on. -/
def monthAndDayFrom (month : Nat) : List Nat → Nat → Nat × Nat
  | [], ordinal => (month, ordinal)
  | length :: lengths, ordinal =>
    if ordinal ≤ length then (month, ordinal)
    else monthAndDayFrom (month + 1) lengths (ordinal - length)

def monthAndDay (date : Date) : Nat × Nat :=
  monthAndDayFrom 1 (monthLengths date.year) date.ordinal

def month (date : Date) : Nat :=
  date.monthAndDay.1

def dayOfMonth (date : Date) : Nat :=
  date.monthAndDay.2

def quarter (date : Date) : Nat :=
  (date.month - 1) / 3 + 1

def weekday (date : Date) : Weekday :=
  .ofFromMonday ((date.day + 3) % 7).toNat

/-- The Thursday of a date's week. It lies in the year that the week belongs to. -/
def weekThursday (date : Date) : Date :=
  ⟨date.day - date.weekday.fromMonday + 3⟩

def isoYear (date : Date) : Int :=
  date.weekThursday.year

def isoWeek (date : Date) : Nat :=
  (date.weekThursday.ordinal - 1) / 7 + 1

/-- The number of the week that begins on `start`; the days before the year's first `start` are in
week 0. -/
def weekOfYear (start : Weekday) (date : Date) : Nat :=
  (date.ordinal + 6 - date.weekday.daysSince start) / 7

def isInRange (date : Date) : Bool :=
  firstDayOfYear firstYear ≤ date.day && date.day < firstDayOfYear (lastYear + 1)

def inRange? (date : Date) : Option Date :=
  if date.isInRange then some date else none

def ofYearOrdinal? (year : Int) (ordinal : Nat) : Option Date :=
  if 1 ≤ ordinal && ordinal ≤ yearLength year then
    inRange? ⟨firstDayOfYear year + ordinal - 1⟩
  else none

def ofYearMonthDay? (year : Int) (month day : Nat) : Option Date :=
  let lengths := monthLengths year
  match lengths[month - 1]? with
  | some length =>
    if 1 ≤ month && 1 ≤ day && day ≤ length then
      ofYearOrdinal? year ((lengths.take (month - 1)).foldl (· + ·) 0 + day)
    else none
  | none => none

/-- The Monday of an ISO year's first week, which is the week of 4 January. -/
def isoYearStart (year : Int) : Int :=
  let fourth : Date := ⟨firstDayOfYear year + 3⟩
  fourth.day - fourth.weekday.fromMonday

def ofIsoWeek? (year : Int) (week : Nat) (weekday : Weekday) : Option Date :=
  let start := isoYearStart year
  let weeks := (isoYearStart (year + 1) - start) / 7
  if 1 ≤ week && (week : Int) ≤ weeks then
    inRange? ⟨start + 7 * ((week : Int) - 1) + weekday.fromMonday⟩
  else none

example : ofYearMonthDay? 2024 2 29 = some ⟨19782⟩ := by decide

example : (⟨19782⟩ : Date).monthAndDay = (2, 29) := by decide

example : ofIsoWeek? 2020 53 .friday = ofYearMonthDay? 2021 1 1 := by decide

end Date

end SignalReplay
