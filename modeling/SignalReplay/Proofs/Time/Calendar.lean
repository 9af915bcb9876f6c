import SignalReplay.Time.Calendar

/-!
The views of a date name the date. A date lies in its year, its ordinal falls on its month and day
of month, and the year, month and day of a date within range are read back as the date.
-/

namespace SignalReplay

open Calendar

/-! ## Years -/

/-- A count of days split by the cycles of the calendar: 400 years, centuries, four years and
years. Only the last year of four has a leap day, and of the last years of the centuries only that
of the last century. -/
structure Cycles (days cycle century four single : Int) : Prop where
  century_low : 0 ≤ century
  century_high : century ≤ 3
  four_low : 0 ≤ four
  four_high : four ≤ 24
  single_low : 0 ≤ single
  single_high : single ≤ 3
  days_low : 146097 * cycle + 36524 * century + 1461 * four + 365 * single ≤ days
  days_high : days < 146097 * cycle + 36524 * century + 1461 * four + 365 * single + 365 ∨
    days = 146097 * cycle + 36524 * century + 1461 * four + 365 * single + 365 ∧
      single = 3 ∧ (four ≤ 23 ∨ century = 3)

theorem Date.year_cycles (date : Date) :
    ∃ cycle century four single, Cycles (date.day + 719162) cycle century four single ∧
      date.year = 400 * cycle + 100 * century + 4 * four + single + 1 := by
  rw [Date.year]
  generalize date.day + 719162 = days
  refine ⟨_, _, _, _, ?_, rfl⟩
  constructor <;> omega

theorem firstDayOfYear_cycles {days cycle century four single : Int}
    (cycles : Cycles days cycle century four single) :
    firstDayOfYear (400 * cycle + 100 * century + 4 * four + single + 1) + 719162 =
      146097 * cycle + 36524 * century + 1461 * four + 365 * single := by
  rcases cycles with ⟨_, _, _, _, _, _, _, _⟩
  have past : 400 * cycle + 100 * century + 4 * four + single + 1 - 1 =
      400 * cycle + 100 * century + 4 * four + single := Int.add_sub_cancel _ _
  have quarters : (400 * cycle + 100 * century + 4 * four + single) / 4 =
      100 * cycle + 25 * century + four := by omega
  have centuries : (400 * cycle + 100 * century + 4 * four + single) / 100 =
      4 * cycle + century := by omega
  have wholes : (400 * cycle + 100 * century + 4 * four + single) / 400 = cycle := by omega
  rw [firstDayOfYear, past, quarters, centuries, wholes]
  omega

theorem firstDayOfYear_succ (year : Int) :
    firstDayOfYear (year + 1) = firstDayOfYear year + yearLength year := by
  have past : year + 1 - 1 = year - 1 + 1 := by omega
  rw [firstDayOfYear, firstDayOfYear, yearLength, isLeapYear, past]
  simp only [Bool.and_eq_true, Bool.or_eq_true, beq_iff_eq, bne_iff_ne]
  split <;> omega

theorem firstDayOfYear_mono {earlier later : Int} (le : earlier ≤ later) :
    firstDayOfYear earlier ≤ firstDayOfYear later := by
  rw [firstDayOfYear, firstDayOfYear]
  omega

theorem lt_yearLength_cycles {days cycle century four single : Int}
    (cycles : Cycles days cycle century four single) :
    days < 146097 * cycle + 36524 * century + 1461 * four + 365 * single +
      yearLength (400 * cycle + 100 * century + 4 * four + single + 1) := by
  rcases cycles with ⟨_, _, _, _, _, _, _, _⟩
  rw [yearLength, isLeapYear]
  simp only [Bool.and_eq_true, Bool.or_eq_true, beq_iff_eq, bne_iff_ne]
  split <;> omega

namespace Date

theorem year_spec (date : Date) :
    firstDayOfYear date.year ≤ date.day ∧
      date.day < firstDayOfYear date.year + yearLength date.year := by
  rcases date.year_cycles with ⟨cycle, century, four, single, cycles, equal⟩
  have first := firstDayOfYear_cycles cycles
  have last := lt_yearLength_cycles cycles
  have low := cycles.days_low
  rw [equal]
  omega

theorem year_bounds {date : Date} (inRange : date.isInRange = true) :
    firstYear ≤ date.year ∧ date.year ≤ lastYear := by
  have spec := date.year_spec
  rw [← firstDayOfYear_succ] at spec
  rw [isInRange, Bool.and_eq_true, decide_eq_true_eq, decide_eq_true_eq] at inRange
  constructor
  · apply Int.not_lt.mp
    intro less
    have early := firstDayOfYear_mono (show date.year + 1 ≤ firstYear by omega)
    omega
  · apply Int.not_lt.mp
    intro more
    have late := firstDayOfYear_mono (show lastYear + 1 ≤ date.year by omega)
    omega

theorem ordinal_spec (date : Date) :
    (date.ordinal : Int) = date.day - firstDayOfYear date.year + 1 ∧
      1 ≤ date.ordinal ∧ date.ordinal ≤ yearLength date.year := by
  have spec := date.year_spec
  rw [ordinal]
  omega

theorem ofYearOrdinal?_ordinal {date : Date} (inRange : date.isInRange = true) :
    ofYearOrdinal? date.year date.ordinal = some date := by
  rcases date.ordinal_spec with ⟨ordinal, least, most⟩
  have restored : firstDayOfYear date.year + date.ordinal - 1 = date.day := by omega
  rw [ofYearOrdinal?, decide_eq_true least, decide_eq_true most, restored]
  exact if_pos inRange

/-! ## Months -/

def total (lengths : List Nat) : Nat :=
  lengths.foldl (· + ·) 0

@[simp]
theorem total_cons (length : Nat) (lengths : List Nat) :
    total (length :: lengths) = length + total lengths := by
  rw [total, total, ← List.sum_eq_foldl, ← List.sum_eq_foldl, List.sum_cons]

@[simp]
theorem total_monthLengths (year : Int) : total (monthLengths year) = yearLength year := by
  rw [monthLengths, yearLength]
  split <;> rfl

/-- The walk ends in the month that the ordinal falls on. -/
theorem monthAndDayFrom_spec (first : Nat) (lengths : List Nat) {ordinal : Nat}
    (least : 1 ≤ ordinal) (most : ordinal ≤ total lengths) :
    ∃ passed length day, monthAndDayFrom first lengths ordinal = (first + passed, day) ∧
      lengths[passed]? = some length ∧ 1 ≤ day ∧ day ≤ length ∧
      ordinal = total (lengths.take passed) + day := by
  induction lengths generalizing first ordinal with
  | nil =>
      have empty : total [] = 0 := rfl
      omega
  | cons length lengths induction =>
      rw [total_cons] at most
      by_cases within : ordinal ≤ length
      · refine ⟨0, length, ordinal, ?_, rfl, least, within, ?_⟩
        · rw [monthAndDayFrom, if_pos within, Nat.add_zero]
        · rw [List.take_zero]
          exact (Nat.zero_add _).symm
      · rcases induction (first + 1) (show 1 ≤ ordinal - length by omega) (by omega) with
          ⟨passed, found, day, walked, present, low, high, equal⟩
        refine ⟨passed + 1, found, day, ?_, ?_, low, high, ?_⟩
        · rw [monthAndDayFrom, if_neg within, walked, Nat.add_right_comm, Nat.add_assoc]
        · rw [List.getElem?_cons_succ]
          exact present
        · rw [List.take_succ_cons, total_cons]
          omega

theorem monthAndDay_spec (date : Date) :
    ∃ length, (monthLengths date.year)[date.month - 1]? = some length ∧ 1 ≤ date.month ∧
      1 ≤ date.dayOfMonth ∧ date.dayOfMonth ≤ length ∧
      date.ordinal = total ((monthLengths date.year).take (date.month - 1)) + date.dayOfMonth := by
  rcases date.ordinal_spec with ⟨_, least, most⟩
  rw [← total_monthLengths] at most
  rcases monthAndDayFrom_spec 1 (monthLengths date.year) least most with
    ⟨passed, length, day, walked, present, low, high, equal⟩
  have month : date.month = 1 + passed := congrArg Prod.fst walked
  have dayOfMonth : date.dayOfMonth = day := congrArg Prod.snd walked
  rw [month, dayOfMonth, Nat.add_sub_cancel_left]
  exact ⟨length, present, Nat.le_add_right _ _, low, high, equal⟩

theorem month_bounds (date : Date) : 1 ≤ date.month ∧ date.month ≤ 12 := by
  rcases date.monthAndDay_spec with ⟨length, present, least, _⟩
  have inside := (List.getElem?_eq_some_iff.mp present).1
  have twelve : (monthLengths date.year).length = 12 := rfl
  omega

theorem dayOfMonth_bounds (date : Date) : 1 ≤ date.dayOfMonth ∧ date.dayOfMonth ≤ 31 := by
  rcases date.monthAndDay_spec with ⟨length, present, _, least, most, _⟩
  have longest : ∀ length ∈ monthLengths date.year, length ≤ 31 := by
    rw [monthLengths]
    split <;> decide
  have bound := longest length (List.mem_of_getElem? present)
  omega

theorem ofYearMonthDay?_views {date : Date} (inRange : date.isInRange = true) :
    ofYearMonthDay? date.year date.month date.dayOfMonth = some date := by
  rcases date.monthAndDay_spec with ⟨length, present, month, least, most, ordinal⟩
  rw [ofYearMonthDay?, present]
  dsimp only
  rw [decide_eq_true month, decide_eq_true least, decide_eq_true most]
  change ofYearOrdinal? date.year
    (total ((monthLengths date.year).take (date.month - 1)) + date.dayOfMonth) = some date
  rw [← ordinal]
  exact ofYearOrdinal?_ordinal inRange

end Date

end SignalReplay
