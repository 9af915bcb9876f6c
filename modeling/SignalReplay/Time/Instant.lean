import SignalReplay.Time.Calendar

/-!
Instants of universal time. A second that closes a minute may be followed by a leap second, which
shares the number of the second it follows and has nanoseconds of 1000000000 and more; instants
are ordered by second and then by nanosecond.
-/

namespace SignalReplay

/-- A time of day on a date, without a time zone: seconds since 1970-01-01 00:00:00 and
nanoseconds, which reach into a second 1000000000 during a leap second. -/
structure CivilTime where
  second : Int
  nano : Nat
deriving DecidableEq, Repr

namespace CivilTime

def ofDate (date : Date) (secondOfDay nano : Nat) : CivilTime :=
  ⟨86400 * date.day + secondOfDay, nano⟩

def midnight (date : Date) : CivilTime :=
  ofDate date 0 0

def date (time : CivilTime) : Date :=
  ⟨time.second / 86400⟩

def secondOfDay (time : CivilTime) : Nat :=
  (time.second % 86400).toNat

end CivilTime

structure Instant where
  second : Int
  nano : Nat
  date_in_range : Date.isInRange ⟨second / 86400⟩ = true
  nano_lt : nano < 2000000000
  leap_closes_minute : 1000000000 ≤ nano → second % 60 = 59
deriving DecidableEq

namespace Instant

def ofParts? (second : Int) (nano : Nat) : Option Instant :=
  if inRange : Date.isInRange ⟨second / 86400⟩ = true then
    if bounded : nano < 2000000000 then
      if leap : 1000000000 ≤ nano → second % 60 = 59 then
        some ⟨second, nano, inRange, bounded, leap⟩
      else none
    else none
  else none

def ofCivil? (time : CivilTime) : Option Instant :=
  ofParts? time.second time.nano

def ofMicros? (micros : Int) : Option Instant :=
  ofParts? (micros / 1000000) ((micros % 1000000).toNat * 1000)

/-- Whole microseconds since 1970-01-01. A leap second counts as the second after it. -/
def micros (instant : Instant) : Int :=
  instant.second * 1000000 + instant.nano / 1000

def civil (instant : Instant) : CivilTime :=
  ⟨instant.second, instant.nano⟩

def le (left right : Instant) : Bool :=
  left.second < right.second || (left.second == right.second && left.nano ≤ right.nano)

def lt (left right : Instant) : Bool :=
  left.second < right.second || (left.second == right.second && left.nano < right.nano)

instance : LE Instant := ⟨fun left right => left.le right = true⟩

instance : LT Instant := ⟨fun left right => left.lt right = true⟩

instance (left right : Instant) : Decidable (left ≤ right) :=
  inferInstanceAs (Decidable (left.le right = true))

instance (left right : Instant) : Decidable (left < right) :=
  inferInstanceAs (Decidable (left.lt right = true))

theorem le_total (left right : Instant) : (left.le right || right.le left) = true := by
  simp only [le, Bool.or_eq_true, Bool.and_eq_true, beq_iff_eq, decide_eq_true_eq]
  omega

theorem le_trans (left middle right : Instant) (first : left.le middle = true)
    (second : middle.le right = true) : left.le right = true := by
  simp only [le, Bool.or_eq_true, Bool.and_eq_true, beq_iff_eq, decide_eq_true_eq] at *
  omega

theorem not_le (left right : Instant) : left.le right = false ↔ right.lt left = true := by
  simp only [le, lt, Bool.or_eq_true, Bool.and_eq_true, beq_iff_eq, decide_eq_true_eq,
    Bool.or_eq_false_iff, Bool.and_eq_false_iff, beq_eq_false_iff_ne, decide_eq_false_iff_not]
  omega

/-! ## Written form -/

def padded (width number : Nat) : List Char :=
  let digits := Nat.toDigits 10 number
  List.replicate (width - digits.length) '0' ++ digits

/-- A year of at least four digits; years outside 0 to 9999 carry a sign. -/
def writeYear (year : Int) : List Char :=
  let digits := padded 4 year.natAbs
  if year < 0 then '-' :: digits
  else if 9999 < year then '+' :: digits
  else digits

/-- The fraction of a second in three, six or nine digits, as few as tell it exactly. -/
def writeFraction (nano : Nat) : List Char :=
  if nano = 0 then []
  else if nano % 1000000 = 0 then '.' :: padded 3 (nano / 1000000)
  else if nano % 1000 = 0 then '.' :: padded 6 (nano / 1000)
  else '.' :: padded 9 nano

/-- The date, the letter T, the time of day and the letter Z. The second of a leap second is
written as 60. -/
def toText (instant : Instant) : String :=
  let date := instant.civil.date
  let inDay := instant.civil.secondOfDay
  let second := inDay % 60 + instant.nano / 1000000000
  String.ofList (writeYear date.year ++ ['-'] ++ padded 2 date.month ++ ['-'] ++
    padded 2 date.dayOfMonth ++ ['T'] ++ padded 2 (inDay / 3600) ++ [':'] ++
    padded 2 (inDay / 60 % 60) ++ [':'] ++ padded 2 second ++
    writeFraction (instant.nano % 1000000000) ++ ['Z'])

end Instant

end SignalReplay
