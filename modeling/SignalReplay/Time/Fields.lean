import SignalReplay.Time.Instant
import SignalReplay.Time.Pattern

/-!
The parts of a timestamp that a text has named, and the date, time of day and instant they agree
on. A part may be named more than once and in more than one way, as long as all agree.
-/

namespace SignalReplay

inductive TimeFault
  | outOfRange
  | contradiction
  | notEnough
  | malformed
  | tooShort
  | trailing
  | unknownPattern
deriving DecidableEq, Repr

def TimeFault.message : TimeFault → String
  | .outOfRange => "input is out of range"
  | .contradiction => "no possible date and time matching input"
  | .notEnough => "input is not enough for unique date and time"
  | .malformed => "input contains invalid characters"
  | .tooShort => "premature end of input"
  | .trailing => "trailing input"
  | .unknownPattern => "bad or unsupported format string"

structure TimeFields where
  year : Option Int := none
  century : Option Int := none
  yearOfCentury : Option Int := none
  isoYear : Option Int := none
  isoYearOfCentury : Option Int := none
  quarter : Option Nat := none
  month : Option Nat := none
  day : Option Nat := none
  ordinal : Option Nat := none
  weekFromSunday : Option Nat := none
  weekFromMonday : Option Nat := none
  isoWeek : Option Nat := none
  weekday : Option Weekday := none
  /-- 0 before noon and 1 after it. -/
  halfOfDay : Option Nat := none
  hourOfHalf : Option Nat := none
  minute : Option Nat := none
  second : Option Nat := none
  nanosecond : Option Nat := none
  unixSecond : Option Int := none
  /-- Seconds that local time is ahead of universal time. -/
  offset : Option Int := none
deriving DecidableEq

namespace TimeFields

/-- Name a part, which must agree with what was named before. -/
def agree [DecidableEq α] (known : Option α) (value : α) : Except TimeFault (Option α) :=
  match known with
  | none => .ok (some value)
  | some before => if before = value then .ok known else .error .contradiction

def within (low high value : Int) : Except TimeFault Nat :=
  if low ≤ value && value ≤ high then .ok value.toNat else .error .outOfRange

/-- Years, centuries and offsets are words of 32 bits. -/
def word (value : Int) : Except TimeFault Int :=
  if -2147483648 ≤ value && value ≤ 2147483647 then .ok value else .error .outOfRange

def putWeekday (fields : TimeFields) (weekday : Weekday) : Except TimeFault TimeFields := do
  return { fields with weekday := ← agree fields.weekday weekday }

def putMonth (fields : TimeFields) (month : Nat) : Except TimeFault TimeFields := do
  return { fields with month := ← agree fields.month month }

def putHalfOfDay (fields : TimeFields) (half : Nat) : Except TimeFault TimeFields := do
  return { fields with halfOfDay := ← agree fields.halfOfDay half }

def putOffset (fields : TimeFields) (seconds : Int) : Except TimeFault TimeFields := do
  return { fields with offset := ← agree fields.offset seconds }

def putNanosecond (fields : TimeFields) (value : Nat) : Except TimeFault TimeFields := do
  return { fields with nanosecond := ← agree fields.nanosecond value }

def put (fields : TimeFields) (field : NumberField) (value : Int) :
    Except TimeFault TimeFields := do
  match field with
  | .year => return { fields with year := ← agree fields.year (← word value) }
  | .century => return { fields with century := ← agree fields.century (← word value) }
  | .yearOfCentury =>
    let known ← within 0 99 value
    return { fields with yearOfCentury := ← agree fields.yearOfCentury (known : Int) }
  | .isoYear => return { fields with isoYear := ← agree fields.isoYear (← word value) }
  | .isoYearOfCentury =>
    let known ← within 0 99 value
    return { fields with isoYearOfCentury := ← agree fields.isoYearOfCentury (known : Int) }
  | .quarter => return { fields with quarter := ← agree fields.quarter (← within 1 4 value) }
  | .month => fields.putMonth (← within 1 12 value)
  | .day => return { fields with day := ← agree fields.day (← within 1 31 value) }
  | .ordinal => return { fields with ordinal := ← agree fields.ordinal (← within 1 366 value) }
  | .weekFromSunday =>
    return { fields with weekFromSunday := ← agree fields.weekFromSunday (← within 0 53 value) }
  | .weekFromMonday =>
    return { fields with weekFromMonday := ← agree fields.weekFromMonday (← within 0 53 value) }
  | .isoWeek => return { fields with isoWeek := ← agree fields.isoWeek (← within 1 53 value) }
  | .weekdayFromSunday => fields.putWeekday (.ofFromMonday ((← within 0 6 value) + 6))
  | .weekdayFromMonday => fields.putWeekday (.ofFromMonday ((← within 1 7 value) - 1))
  | .hour =>
    let hour ← within 0 23 value
    let fields ← fields.putHalfOfDay (hour / 12)
    return { fields with hourOfHalf := ← agree fields.hourOfHalf (hour % 12) }
  | .hourOfHalf =>
    let hour ← within 1 12 value
    return { fields with hourOfHalf := ← agree fields.hourOfHalf (hour % 12) }
  | .minute => return { fields with minute := ← agree fields.minute (← within 0 59 value) }
  | .second => return { fields with second := ← agree fields.second (← within 0 60 value) }
  | .nanosecond => fields.putNanosecond (← within 0 999999999 value)
  | .unixSecond => return { fields with unixSecond := ← agree fields.unixSecond value }

/-! ## The date -/

/-- The year meant by a full year, a century and a year of the century. Two digits alone mean the
years from 1970 to 2069. -/
def resolveYear : Option Int → Option Int → Option Int → Except TimeFault (Option Int)
  | year, none, none => .ok year
  | some year, century, yearOfCentury =>
    if year < 0 then .error .contradiction
    else if century.getD (year / 100) = year / 100 &&
        yearOfCentury.getD (year % 100) = year % 100 then .ok (some year)
    else .error .contradiction
  | none, some century, some yearOfCentury =>
    if century < 0 then .error .contradiction
    else (word (century * 100 + yearOfCentury)).map some
  | none, none, some yearOfCentury =>
    .ok (some (yearOfCentury + if yearOfCentury < 70 then 2000 else 1900))
  | none, some _, none => .error .notEnough

def weekDate (year : Int) (week : Nat) (weekday start : Weekday) : Except TimeFault Date :=
  match Date.ofYearOrdinal? year 1 with
  | none => .error .outOfRange
  | some first =>
    let firstStart := 1 + start.daysSince first.weekday
    let ordinal : Int := firstStart + ((week : Int) - 1) * 7 + weekday.daysSince start
    if ordinal ≤ 0 then .error .contradiction
    else
      match Date.ofYearOrdinal? year ordinal.toNat with
      | some date => .ok date
      | none => .error .contradiction

def matchesValue [DecidableEq α] (known : Option α) (value : α) : Bool :=
  known.all (· = value)

def matchesPresent [DecidableEq α] (known value : Option α) : Bool :=
  known.all fun before => value = some before

def centuryOf (year : Int) : Option Int :=
  if year < 0 then none else some (year / 100)

def yearOfCenturyOf (year : Int) : Option Int :=
  if year < 0 then none else some (year % 100)

def agreesOnYearMonthDay (fields : TimeFields) (date : Date) : Bool :=
  matchesValue fields.year date.year &&
    matchesPresent fields.century (centuryOf date.year) &&
    matchesPresent fields.yearOfCentury (yearOfCenturyOf date.year) &&
    matchesValue fields.month date.month && matchesValue fields.day date.dayOfMonth

def agreesOnIsoWeek (fields : TimeFields) (date : Date) : Bool :=
  matchesValue fields.isoYear date.isoYear &&
    matchesPresent fields.isoYearOfCentury (yearOfCenturyOf date.isoYear) &&
    matchesValue fields.isoWeek date.isoWeek && matchesValue fields.weekday date.weekday

def agreesOnOrdinal (fields : TimeFields) (date : Date) : Bool :=
  matchesValue fields.ordinal date.ordinal &&
    matchesValue fields.weekFromSunday (date.weekOfYear .sunday) &&
    matchesValue fields.weekFromMonday (date.weekOfYear .monday)

/-- A date found from some parts, accepted if the remaining parts agree with it. -/
def accept (agrees : Date → Bool) (found : Option Date) : Except TimeFault Date :=
  match found with
  | none => .error .outOfRange
  | some date => if agrees date then .ok date else .error .contradiction

/-- The date found from the first of these that is named in full: year, month and day; year and
ordinal; year, week from Sunday and weekday; year, week from Monday and weekday; ISO year, week
and weekday. -/
def dateWithoutQuarter (fields : TimeFields) : Except TimeFault Date := do
  let year ← resolveYear fields.year fields.century fields.yearOfCentury
  let isoYear ← resolveYear fields.isoYear none fields.isoYearOfCentury
  let agreesBut (date : Date) :=
    fields.agreesOnYearMonthDay date && fields.agreesOnIsoWeek date && fields.agreesOnOrdinal date
  match year, fields.month, fields.day with
  | some year, some month, some day =>
    accept (fun date => fields.agreesOnIsoWeek date && fields.agreesOnOrdinal date)
      (Date.ofYearMonthDay? year month day)
  | _, _, _ =>
  match year, fields.ordinal with
  | some year, some ordinal => accept agreesBut (Date.ofYearOrdinal? year ordinal)
  | _, _ =>
  match year, fields.weekFromSunday, fields.weekday with
  | some year, some week, some weekday => accept agreesBut (← weekDate year week weekday .sunday)
  | _, _, _ =>
  match year, fields.weekFromMonday, fields.weekday with
  | some year, some week, some weekday => accept agreesBut (← weekDate year week weekday .monday)
  | _, _, _ =>
  match isoYear, fields.isoWeek, fields.weekday with
  | some isoYear, some week, some weekday =>
    accept (fun date => fields.agreesOnYearMonthDay date && fields.agreesOnOrdinal date)
      (Date.ofIsoWeek? isoYear week weekday)
  | _, _, _ => .error .notEnough

def date (fields : TimeFields) : Except TimeFault Date := do
  let date ← fields.dateWithoutQuarter
  if matchesValue fields.quarter date.quarter then .ok date else .error .contradiction

/-! ## The time of day -/

/-- Seconds since midnight and nanoseconds. A second of 60 is the leap second after 59. -/
def timeOfDay (fields : TimeFields) : Except TimeFault (Nat × Nat) := do
  let half ← fields.halfOfDay.elim (.error .notEnough) .ok
  let hourOfHalf ← fields.hourOfHalf.elim (.error .notEnough) .ok
  let minute ← fields.minute.elim (.error .notEnough) .ok
  let named := fields.second.getD 0
  let (second, leap) := if named = 60 then (59, 1000000000) else (named, 0)
  if fields.nanosecond.isSome && fields.second.isNone then .error .notEnough
  else
    .ok ((half * 12 + hourOfHalf) * 3600 + minute * 60 + second,
      leap + fields.nanosecond.getD 0)

/-! ## Points of time -/

/-- Complete the parts by those of a Unix second, seen `offset` seconds ahead of universal time. A
named second of 60 is the leap second that ends at the Unix second or just before it. -/
def completeFrom (fields : TimeFields) (unixSecond offset : Int) :
    Except TimeFault TimeFields := do
  let seen := unixSecond + offset
  if !Date.isInRange ⟨seen / 86400⟩ then .error .outOfRange
  else
    let (civil, fields) ←
      if fields.second = some 60 then
        match seen % 60 with
        | 59 => pure (seen, fields)
        | 0 => pure (seen - 1, fields)
        | _ => .error .contradiction
      else do
        pure (seen, ← fields.put .second (seen % 60))
    let date : Date := ⟨civil / 86400⟩
    let fields ← fields.put .year date.year
    let fields ← fields.put .ordinal date.ordinal
    let fields ← fields.put .hour (civil % 86400 / 3600)
    fields.put .minute (civil % 3600 / 60)

def combine (fields : TimeFields) : Except TimeFault CivilTime := do
  let date ← fields.date
  let (second, nano) ← fields.timeOfDay
  return .ofDate date second nano

def faultOf : Except TimeFault α → Option TimeFault
  | .ok _ => none
  | .error fault => some fault

/-- The time of day and date, seen `offset` seconds ahead of universal time. A Unix second must
agree with the other parts and may replace those that are missing, unless a part that is there is
wrong by itself. -/
def civil (fields : TimeFields) (offset : Int) : Except TimeFault CivilTime := do
  match fields.combine, fields.unixSecond with
  | .ok time, none => .ok time
  | .ok time, some given =>
    let second := time.second - offset
    if given = second || (1000000000 ≤ time.nano && given = second + 1) then .ok time
    else .error .contradiction
  | .error fault, none => .error fault
  | .error _, some given =>
    let faults := [faultOf fields.date, faultOf fields.timeOfDay]
    if faults.contains (some .outOfRange) then .error .outOfRange
    else if faults.contains (some .contradiction) then .error .contradiction
    else (← fields.completeFrom given offset).combine

/-- The instant named together with its offset. A Unix second alone is universal time. -/
def instant (fields : TimeFields) : Except TimeFault Instant := do
  let offset ←
    match fields.offset, fields.unixSecond with
    | some offset, _ => .ok offset
    | none, some _ => .ok 0
    | none, none => .error .notEnough
  let time ← fields.civil offset
  if offset.natAbs < 86400 then
    match Instant.ofParts? (time.second - offset) time.nano with
    | some instant => .ok instant
    | none => .error .contradiction
  else .error .outOfRange

end TimeFields

end SignalReplay
