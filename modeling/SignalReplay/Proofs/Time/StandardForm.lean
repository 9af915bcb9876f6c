import SignalReplay.Time.Timestamp
import SignalReplay.Proofs.Decimal.Digits
import SignalReplay.Proofs.Time.Calendar

/-!
Instants read back from the standard form. Each part of a written instant is scanned by its item
and named in the fields, and the fields of an instant within range name that instant again, leap
seconds and fractions included.
-/

namespace SignalReplay

open Decimal

/-! ## Padded numbers -/

namespace Instant

theorem allDigits_padded (width number : Nat) : AllDigits (padded width number) :=
  (allDigits_zeros _).append (allDigits_toDigits number)

@[simp]
theorem valueOfDigits_padded (width number : Nat) :
    valueOfDigits (padded width number) = number :=
  (valueOfDigits_zeros_append _ _).trans (valueOfDigits_toDigits number)

theorem length_padded {width number : Nat} (positive : 0 < width) (small : number < 10 ^ width) :
    (padded width number).length = width := by
  have short := (Nat.length_toDigits_le_iff (by decide) positive).mpr small
  rw [padded, List.length_append, List.length_replicate]
  omega

theorem length_padded_pos (width number : Nat) : 1 ≤ (padded width number).length := by
  have positive : 0 < (Nat.toDigits 10 number).length := Nat.length_toDigits_pos
  rw [padded, List.length_append]
  omega

end Instant

theorem bind_of_ok {step : Except ε α} {value : α} (given : step = .ok value)
    (next : α → Except ε β) : (step >>= next) = next value := by
  rw [given]
  rfl

/-! ## Naming the parts -/

namespace TimeFields

variable {fields : TimeFields}

theorem within_ok {low high : Int} {value : Nat} (least : low ≤ value) (most : value ≤ high) :
    within low high value = .ok value := by
  have inside : (low ≤ (value : Int) && (value : Int) ≤ high) = true := by
    rw [Bool.and_eq_true, decide_eq_true_eq, decide_eq_true_eq]
    exact ⟨least, most⟩
  rw [within, if_pos inside, Int.toNat_natCast]

theorem agree_ok [DecidableEq α] {known : Option α} (fresh : known = none) (value : α) :
    agree known value = .ok (some value) := by
  rw [fresh, agree]

theorem put_year {year : Int} (fresh : fields.year = none) (low : -2147483648 ≤ year)
    (high : year ≤ 2147483647) :
    fields.put .year year = .ok { fields with year := some year } := by
  have inside : word year = .ok year := by
    rw [word, if_pos]
    rw [Bool.and_eq_true, decide_eq_true_eq, decide_eq_true_eq]
    exact ⟨low, high⟩
  rw [put, bind_of_ok inside, bind_of_ok (agree_ok fresh year)]
  rfl

theorem put_month {month : Nat} (fresh : fields.month = none) (least : 1 ≤ month)
    (most : month ≤ 12) : fields.put .month month = .ok { fields with month := some month } := by
  rw [put, bind_of_ok (within_ok (by omega) (by omega)), putMonth,
    bind_of_ok (agree_ok fresh month)]
  rfl

theorem put_day {day : Nat} (fresh : fields.day = none) (least : 1 ≤ day) (most : day ≤ 31) :
    fields.put .day day = .ok { fields with day := some day } := by
  rw [put, bind_of_ok (within_ok (by omega) (by omega)), bind_of_ok (agree_ok fresh day)]
  rfl

def withHour (fields : TimeFields) (hour : Nat) : TimeFields :=
  { fields with halfOfDay := some (hour / 12), hourOfHalf := some (hour % 12) }

theorem put_hour {hour : Nat} (noHalf : fields.halfOfDay = none) (noHour : fields.hourOfHalf = none)
    (most : hour ≤ 23) : fields.put .hour hour = .ok (fields.withHour hour) := by
  have half : fields.putHalfOfDay (hour / 12) =
      .ok { fields with halfOfDay := some (hour / 12) } := by
    rw [putHalfOfDay, bind_of_ok (agree_ok noHalf _)]
    rfl
  rw [put, bind_of_ok (within_ok (by omega) (by omega)), bind_of_ok half,
    bind_of_ok (agree_ok noHour _)]
  rfl

theorem put_minute {minute : Nat} (fresh : fields.minute = none) (most : minute ≤ 59) :
    fields.put .minute minute = .ok { fields with minute := some minute } := by
  rw [put, bind_of_ok (within_ok (by omega) (by omega)), bind_of_ok (agree_ok fresh minute)]
  rfl

theorem put_second {second : Nat} (fresh : fields.second = none) (most : second ≤ 60) :
    fields.put .second second = .ok { fields with second := some second } := by
  rw [put, bind_of_ok (within_ok (by omega) (by omega)), bind_of_ok (agree_ok fresh second)]
  rfl

end TimeFields

/-! ## Scanners -/

namespace TimeScan

open Text (trimStart utf8Length isBlank)

theorem length_le_utf8Length (text : List Char) : text.length ≤ utf8Length text := by
  induction text with
  | nil => exact Nat.le_refl 0
  | cons character rest induction =>
      have positive := character.utf8Size_pos
      rw [List.length_cons, utf8Length]
      omega

theorem trimStart_cons {first : Char} (rest : List Char) (visible : isBlank first = false) :
    trimStart (first :: rest) = first :: rest :=
  List.dropWhile_cons_of_neg (Bool.not_eq_true _ ▸ visible)

theorem isBlank_of_isDigit {character : Char} (digit : isDigit character = true) :
    isBlank character = false := by
  rw [isDigit, Bool.and_eq_true, decide_eq_true_eq, decide_eq_true_eq] at digit
  have low : 48 ≤ character.toNat := digit.1
  have high : character.toNat ≤ 57 := digit.2
  simp only [isBlank, Bool.or_eq_false_iff, Bool.and_eq_false_iff, decide_eq_false_iff_not,
    beq_eq_false_iff_ne]
  omega

theorem trimStart_digits {digits : List Char} (rest : List Char) (all : AllDigits digits)
    (not_empty : 1 ≤ digits.length) : trimStart (digits ++ rest) = digits ++ rest := by
  cases digits with
  | nil => cases not_empty
  | cons first more =>
      exact trimStart_cons _ (isBlank_of_isDigit (all first (List.mem_cons_self ..)))

/-- Digits are scanned as the number they spell if the scanner reaches exactly them. -/
theorem number_append {least : Nat} {width : Option Nat} {digits rest : List Char}
    (reached : (width.elim (digits ++ rest) (digits ++ rest).take).takeWhile isDigit = digits)
    (enough : least ≤ digits.length) (small : valueOfDigits digits ≤ greatestUnixSecond) :
    number least width (digits ++ rest) = .ok (valueOfDigits digits, rest) := by
  have long := length_le_utf8Length (digits ++ rest)
  rw [List.length_append] at long
  cases width with
  | none =>
      rw [Option.elim_none] at reached
      rw [number.eq_def]
      dsimp only
      rw [reached, if_neg (by omega), if_neg (by omega), if_neg (by omega), List.drop_left]
  | some width =>
      rw [Option.elim_some] at reached
      rw [number.eq_def]
      dsimp only
      rw [reached, if_neg (by omega), if_neg (by omega), if_neg (by omega), List.drop_left]

theorem number_free {least : Nat} {digits rest : List Char} (all : AllDigits digits)
    (ends : EndsDigits rest) (enough : least ≤ digits.length)
    (small : valueOfDigits digits ≤ greatestUnixSecond) :
    number least none (digits ++ rest) = .ok (valueOfDigits digits, rest) :=
  number_append (takeWhile_digits all ends) enough small

theorem number_width {least width : Nat} {digits rest : List Char} (all : AllDigits digits)
    (fits : digits.length ≤ width) (ends : digits.length = width ∨ EndsDigits rest)
    (enough : least ≤ digits.length) (small : valueOfDigits digits ≤ greatestUnixSecond) :
    number least (some width) (digits ++ rest) = .ok (valueOfDigits digits, rest) := by
  apply number_append _ enough small
  rw [Option.elim_some, List.take_append, List.take_of_length_le fits]
  apply takeWhile_digits all
  rcases ends with full | ends
  · rw [full, Nat.sub_self, List.take_zero]
    exact endsDigits_nil
  · intro character first
    rw [List.head?_take] at first
    split at first
    · cases first
    · exact ends character first

theorem signedNumber_digits (width : Option Nat) {digits : List Char} (rest : List Char)
    (all : AllDigits digits) (not_empty : 1 ≤ digits.length) :
    signedNumber width (digits ++ rest) =
      (number 1 width (digits ++ rest)).map fun (value, rest) => ((value : Int), rest) := by
  cases digits with
  | nil => cases not_empty
  | cons first more =>
      have digit := all first (List.mem_cons_self ..)
      rw [List.cons_append, signedNumber]
      · intro _ equal
        rw [(List.cons.inj equal).1] at digit
        exact absurd digit (by decide)
      · intro _ equal
        rw [(List.cons.inj equal).1] at digit
        exact absurd digit (by decide)

@[simp]
theorem literal_mark (mark : Char) (rest : List Char) :
    literal [mark] (mark :: rest) = .ok rest := by
  have long : ¬ utf8Length (mark :: rest) < utf8Length [mark] := by
    rw [utf8Length, utf8Length, utf8Length]
    omega
  have front : [mark].isPrefixOf (mark :: rest) = true := by
    rw [List.isPrefixOf, beq_self_eq_true, List.isPrefixOf]
    rfl
  rw [literal, if_neg long, if_pos front]
  rfl

/-! ## Items -/

variable {fields : TimeFields} {rest : List Char}

theorem items_cons {text after : List Char} {next : PatternItem} {more : List PatternItem}
    {named : TimeFields} (scanned : item fields text next = .ok (named, after)) :
    items fields text (next :: more) = items named after more := by
  rw [items, scanned]
  rfl

theorem items_mark (mark : Char) (visible : isBlank mark = false) (more : List PatternItem) :
    items fields (mark :: rest) (.blanks :: .literal [mark] :: more) = items fields rest more := by
  have blanks : item fields (mark :: rest) .blanks = .ok (fields, mark :: rest) := by
    rw [item, trimStart_cons rest visible]
  have literal : item fields (mark :: rest) (.literal [mark]) = .ok (fields, rest) := by
    rw [item, literal_mark]
    rfl
  rw [items_cons blanks, items_cons literal]

theorem items_scanned {text : List Char} {field : NumberField} {value : Int} {named : TimeFields}
    {more : List PatternItem}
    (scanned : (if field.isSigned then signedNumber field.width (trimStart text)
      else (number 1 field.width (trimStart text)).map fun (value, rest) => ((value : Int), rest)) =
        .ok (value, rest))
    (put : fields.put field value = .ok named) :
    items fields text (.number field :: more) = items named rest more := by
  apply items_cons
  rw [item]
  dsimp only
  cases sign : field.isSigned with
  | true =>
      rw [sign, if_pos rfl] at scanned
      rw [if_pos rfl, bind_of_ok scanned, bind_of_ok put]
      rfl
  | false =>
      rw [sign, if_neg Bool.false_ne_true] at scanned
      rw [if_neg Bool.false_ne_true, bind_of_ok scanned, bind_of_ok put]
      rfl

theorem items_number {digits : List Char} {field : NumberField} {named : TimeFields}
    {more : List PatternItem} (all : AllDigits digits) (unsigned : field.isSigned = false)
    (width : field.width = some digits.length) (not_empty : 1 ≤ digits.length)
    (small : valueOfDigits digits ≤ greatestUnixSecond)
    (put : fields.put field (valueOfDigits digits) = .ok named) :
    items fields (digits ++ rest) (.number field :: more) = items named rest more := by
  apply items_scanned _ put
  rw [unsigned, if_neg Bool.false_ne_true, width, trimStart_digits rest all not_empty,
    number_width all (Nat.le_refl _) (Or.inl rfl) not_empty small]
  rfl

theorem items_padded {number : Nat} {field : NumberField} {named : TimeFields}
    {more : List PatternItem} (unsigned : field.isSigned = false) (width : field.width = some 2)
    (small : number < 100) (put : fields.put field number = .ok named) :
    items fields (Instant.padded 2 number ++ rest) (.number field :: more) =
      items named rest more := by
  have length := @Instant.length_padded 2 number (by decide) small
  have value := Instant.valueOfDigits_padded 2 number
  apply items_number (Instant.allDigits_padded 2 number) unsigned
  · rw [width, length]
  · exact Instant.length_padded_pos 2 number
  · rw [value, greatestUnixSecond]
    omega
  · rw [value]
    exact put

theorem items_year {year : Int} {named : TimeFields} {more : List PatternItem}
    (low : -9223372036854775807 ≤ year) (high : year ≤ 9223372036854775807)
    (ends : EndsDigits rest) (put : fields.put .year year = .ok named) :
    items fields (Instant.writeYear year ++ rest) (.number .year :: more) =
      items named rest more := by
  have all := Instant.allDigits_padded 4 year.natAbs
  have value := Instant.valueOfDigits_padded 4 year.natAbs
  have not_empty := Instant.length_padded_pos 4 year.natAbs
  have small : valueOfDigits (Instant.padded 4 year.natAbs) ≤ greatestUnixSecond := by
    rw [value, greatestUnixSecond]
    omega
  have scanned : signedNumber (some 4) (trimStart (Instant.writeYear year ++ rest)) =
      .ok (year, rest) := by
    -- With a sign any number of digits is read; without one there are exactly four.
    have free := number_free all ends not_empty small
    rw [value] at free
    rw [Instant.writeYear]
    by_cases negative : year < 0
    · have restored : -((year.natAbs : Nat) : Int) = year := by omega
      rw [if_pos negative, List.cons_append, trimStart_cons _ (by decide), signedNumber, free]
      exact congrArg (fun year => Except.ok (year, rest)) restored
    · have restored : ((year.natAbs : Nat) : Int) = year := by omega
      rw [if_neg negative]
      by_cases long : 9999 < year
      · rw [if_pos long, List.cons_append, trimStart_cons _ (by decide), signedNumber, free]
        exact congrArg (fun year => Except.ok (year, rest)) restored
      · have length := @Instant.length_padded 4 year.natAbs (by decide) (by omega)
        have bounded : number 1 (some 4) (Instant.padded 4 year.natAbs ++ rest) = .ok (_, rest) :=
          number_width all (Nat.le_of_eq length) (Or.inl length) not_empty small
        rw [value] at bounded
        rw [if_neg long, trimStart_digits rest all not_empty,
          signedNumber_digits (some 4) rest all not_empty, bounded]
        exact congrArg (fun year => Except.ok (year, rest)) restored
  exact items_scanned scanned put

/-! ## Parts of the standard form -/

def dateItems : List PatternItem :=
  [.number .year, .blanks, .literal ['-'], .number .month, .blanks, .literal ['-'], .number .day,
    .dateTimeMark]

def dateFields (year : Int) (month day : Nat) : TimeFields where
  year := some year
  month := some month
  day := some day

theorem items_date {year : Int} {month day : Nat} (more : List PatternItem)
    (yearRange : -262144 ≤ year ∧ year ≤ 262143) (monthRange : 1 ≤ month ∧ month ≤ 12)
    (dayRange : 1 ≤ day ∧ day ≤ 31) :
    items {} (Instant.writeYear year ++ '-' :: (Instant.padded 2 month ++ '-' ::
        (Instant.padded 2 day ++ 'T' :: rest))) (dateItems ++ more) =
      items (dateFields year month day) rest more := by
  have hyphen : isBlank '-' = false := by decide
  have putYear : TimeFields.put {} .year year = .ok { year := some year } :=
    TimeFields.put_year rfl (by omega) (by omega)
  have putMonth : TimeFields.put { year := some year } .month month =
      .ok { year := some year, month := some month } :=
    TimeFields.put_month rfl monthRange.1 monthRange.2
  have putDay : TimeFields.put { year := some year, month := some month } .day day =
      .ok (dateFields year month day) := TimeFields.put_day rfl dayRange.1 dayRange.2
  simp only [dateItems, List.cons_append, List.nil_append]
  rw [items_year (by omega) (by omega) (endsDigits_cons _ (by decide)) putYear,
    items_mark '-' hyphen, items_padded rfl rfl (by omega) putMonth, items_mark '-' hyphen,
    items_padded rfl rfl (by omega) putDay]
  exact items_cons rfl

def clockItems : List PatternItem :=
  [.number .hour, .blanks, .literal [':'], .number .minute, .blanks, .literal [':'],
    .number .second]

theorem items_clock {hour minute second : Nat} (more : List PatternItem)
    (noHalf : fields.halfOfDay = none) (noHour : fields.hourOfHalf = none)
    (noMinute : fields.minute = none) (noSecond : fields.second = none)
    (hourRange : hour ≤ 23) (minuteRange : minute ≤ 59) (secondRange : second ≤ 60) :
    items fields (Instant.padded 2 hour ++ ':' :: (Instant.padded 2 minute ++ ':' ::
        (Instant.padded 2 second ++ rest))) (clockItems ++ more) =
      items { fields.withHour hour with minute := some minute, second := some second }
        rest more := by
  have colon : isBlank ':' = false := by decide
  have putHour := TimeFields.put_hour noHalf noHour hourRange
  have putMinute : (fields.withHour hour).put .minute minute =
      .ok { fields.withHour hour with minute := some minute } :=
    TimeFields.put_minute noMinute minuteRange
  have putSecond : { fields.withHour hour with minute := some minute }.put .second second =
      .ok { fields.withHour hour with minute := some minute, second := some second } :=
    TimeFields.put_second noSecond secondRange
  simp only [clockItems, List.cons_append, List.nil_append]
  rw [items_padded rfl rfl (by omega) putHour, items_mark ':' colon,
    items_padded rfl rfl (by omega) putMinute, items_mark ':' colon,
    items_padded rfl rfl (by omega) putSecond]

theorem fraction_append {digits : List Char} (all : AllDigits digits) (ends : EndsDigits rest)
    (not_empty : 1 ≤ digits.length) (short : digits.length ≤ 9)
    (small : valueOfDigits digits ≤ greatestUnixSecond) :
    fraction (digits ++ rest) =
      .ok (valueOfDigits digits * 10 ^ (9 - digits.length), rest) := by
  have scanned := number_width all short (Or.inr ends) not_empty small
  have passed : rest.dropWhile isDigit = rest :=
    dropWhile_digits (List.forall_mem_nil _) ends
  have count : (digits ++ rest).length - rest.length = digits.length := by
    rw [List.length_append]
    omega
  rw [fraction, scanned]
  change Except.ok (valueOfDigits digits * Nat.pow 10 (9 - ((digits ++ rest).length - rest.length)),
    rest.dropWhile isDigit) = _
  rw [passed, count]
  rfl

theorem items_pointed {width number nano : Nat} (more : List PatternItem)
    (fresh : fields.nanosecond = none) (positive : 0 < width) (short : width ≤ 9)
    (bounded : number < 10 ^ width) (value : number * 10 ^ (9 - width) = nano)
    (ends : EndsDigits rest) :
    items fields ('.' :: (Instant.padded width number ++ rest)) (.fraction :: more) =
      items { fields with nanosecond := some nano } rest more := by
  have length := Instant.length_padded positive bounded
  have spelled := Instant.valueOfDigits_padded width number
  have most : 10 ^ width ≤ 10 ^ 9 := Nat.pow_le_pow_right (by decide) short
  have small : valueOfDigits (Instant.padded width number) ≤ greatestUnixSecond := by
    rw [spelled, greatestUnixSecond]
    omega
  have scanned := fraction_append (Instant.allDigits_padded width number) ends (by omega)
    (by omega) small
  rw [spelled, length, value] at scanned
  apply items_cons
  rw [item, bind_of_ok scanned]
  dsimp only
  rw [TimeFields.putNanosecond, bind_of_ok (TimeFields.agree_ok fresh nano)]
  rfl

theorem items_fraction {nano : Nat} (more : List PatternItem) (fresh : fields.nanosecond = none)
    (small : nano < 1000000000) (ends : EndsDigits rest) (noPoint : rest.head? ≠ some '.') :
    items fields (Instant.writeFraction nano ++ rest) (.fraction :: more) =
      items { fields with nanosecond := if nano = 0 then none else some nano } rest more := by
  rw [Instant.writeFraction]
  by_cases whole : nano = 0
  · rw [if_pos whole, if_pos whole, ← fresh]
    apply items_cons
    rw [List.nil_append, item]
    intro after equal
    rw [equal] at noPoint
    exact noPoint rfl
  rw [if_neg whole, if_neg whole]
  by_cases millis : nano % 1000000 = 0
  · rw [if_pos millis]
    exact items_pointed more fresh (by decide) (by decide) (by omega) (by omega) ends
  rw [if_neg millis]
  by_cases micros : nano % 1000 = 0
  · rw [if_pos micros]
    exact items_pointed more fresh (by decide) (by decide) (by omega) (by omega) ends
  · rw [if_neg micros]
    exact items_pointed more fresh (by decide) (by decide) (by omega) (by omega) ends

theorem items_zone (fresh : fields.offset = none) :
    items fields ['Z'] [.blanks, .zone, .blanks] =
      .ok ({ fields with offset := some 0 }, []) := by
  have zone : item fields ['Z'] .zone = .ok ({ fields with offset := some 0 }, []) := by
    rw [item]
    change (fields.putOffset 0 >>= fun named => .ok (named, ([] : List Char))) = _
    rw [TimeFields.putOffset, bind_of_ok (TimeFields.agree_ok fresh 0)]
    rfl
  have before : item fields ['Z'] .blanks = .ok (fields, ['Z']) := rfl
  rw [items_cons before, items_cons zone]
  rfl

end TimeScan

/-! ## Instants -/

namespace Instant

theorem secondOfDay_lt (instant : Instant) : instant.civil.secondOfDay < 86400 := by
  rw [CivilTime.secondOfDay]
  omega

/-- The fields that the standard form of an instant names. -/
def named (instant : Instant) : TimeFields :=
  let date := instant.civil.date
  let inDay := instant.civil.secondOfDay
  let nano := instant.nano % 1000000000
  { (TimeScan.dateFields date.year date.month date.dayOfMonth).withHour (inDay / 3600) with
    minute := some (inDay / 60 % 60)
    second := some (inDay % 60 + instant.nano / 1000000000)
    nanosecond := if nano = 0 then none else some nano
    offset := some 0 }

theorem fields_toText (instant : Instant) :
    TimeScan.fields (PatternItem.standardForm ++ [PatternItem.blanks]) instant.toText.toList =
      .ok instant.named := by
  have inDay := instant.secondOfDay_lt
  have nano := instant.nano_lt
  have years : Calendar.firstYear ≤ instant.civil.date.year ∧
      instant.civil.date.year ≤ Calendar.lastYear := Date.year_bounds instant.date_in_range
  rw [Calendar.firstYear, Calendar.lastYear] at years
  have zone : EndsDigits ['Z'] := endsDigits_cons [] (by decide)
  have pattern : PatternItem.standardForm ++ [PatternItem.blanks] =
      TimeScan.dateItems ++ (TimeScan.clockItems ++
        [PatternItem.fraction, PatternItem.blanks, PatternItem.zone, PatternItem.blanks]) := rfl
  have scanned : TimeScan.items {} instant.toText.toList
      (PatternItem.standardForm ++ [PatternItem.blanks]) = .ok (instant.named, []) := by
    delta toText
    simp only [String.toList_ofList, pattern, List.append_assoc, List.cons_append, List.nil_append]
    rw [TimeScan.items_date _ (by omega) instant.civil.date.month_bounds
        instant.civil.date.dayOfMonth_bounds,
      TimeScan.items_clock _ rfl rfl rfl rfl (by omega) (by omega) (by omega),
      TimeScan.items_fraction _ rfl (by omega) zone (by decide), TimeScan.items_zone rfl]
    rfl
  rw [TimeScan.fields, scanned]
  rfl

@[simp]
theorem date_named (instant : Instant) : instant.named.date = .ok instant.civil.date := by
  have found : Date.ofYearMonthDay? instant.civil.date.year instant.civil.date.month
      instant.civil.date.dayOfMonth = some instant.civil.date :=
    Date.ofYearMonthDay?_views instant.date_in_range
  have plain : instant.named.dateWithoutQuarter = .ok instant.civil.date := by
    change TimeFields.accept _ (Date.ofYearMonthDay? instant.civil.date.year
      instant.civil.date.month instant.civil.date.dayOfMonth) = _
    rw [found]
    rfl
  rw [TimeFields.date, plain]
  rfl

/-- A leap second is named as the second 60; the second 59 is what stays in the time of day. -/
theorem named_second (instant : Instant) :
    (if instant.civil.secondOfDay % 60 + instant.nano / 1000000000 = 60 then (59, 1000000000)
      else (instant.civil.secondOfDay % 60 + instant.nano / 1000000000, 0) : Nat × Nat) =
        (instant.civil.secondOfDay % 60, instant.nano / 1000000000 * 1000000000) := by
  have small := instant.nano_lt
  by_cases leap : 1000000000 ≤ instant.nano
  · have closes := instant.leap_closes_minute leap
    have last : instant.civil.secondOfDay % 60 = 59 := by
      rw [CivilTime.secondOfDay, civil]
      dsimp only
      omega
    have one : instant.nano / 1000000000 = 1 := by omega
    rw [last, one]
    rfl
  · have none : instant.nano / 1000000000 = 0 := by omega
    rw [none, if_neg (by omega), Nat.add_zero, Nat.zero_mul]

@[simp]
theorem timeOfDay_named (instant : Instant) :
    instant.named.timeOfDay = .ok (instant.civil.secondOfDay, instant.nano) := by
  have half : instant.named.halfOfDay = some (instant.civil.secondOfDay / 3600 / 12) := rfl
  have hour : instant.named.hourOfHalf = some (instant.civil.secondOfDay / 3600 % 12) := rfl
  have minute : instant.named.minute = some (instant.civil.secondOfDay / 60 % 60) := rfl
  have second : instant.named.second =
      some (instant.civil.secondOfDay % 60 + instant.nano / 1000000000) := rfl
  have nanosecond : instant.named.nanosecond.getD 0 = instant.nano % 1000000000 := by
    change (if instant.nano % 1000000000 = 0 then none
      else some (instant.nano % 1000000000)).getD 0 = _
    split
    · next zero => rw [zero]; rfl
    · rfl
  -- Only these five parts are read, so the fields themselves need not be unfolded.
  generalize instant.named = fields at *
  simp only [TimeFields.timeOfDay, half, hour, minute, second, nanosecond, Option.elim_some,
    Option.getD_some, bind, Except.bind, Option.isNone_some, Bool.and_false, Bool.false_eq_true,
    if_false, named_second]
  congr 2
  · omega
  · omega

@[simp]
theorem readStandardForm?_toText (instant : Instant) :
    Timestamp.readStandardForm? instant.toText = some instant := by
  have combined : instant.named.combine =
      .ok (.ofDate instant.civil.date instant.civil.secondOfDay instant.nano) := by
    rw [TimeFields.combine, bind_of_ok instant.date_named, bind_of_ok instant.timeOfDay_named]
    rfl
  have civil : instant.named.civil 0 =
      .ok (.ofDate instant.civil.date instant.civil.secondOfDay instant.nano) := by
    rw [TimeFields.civil, combined]
    rfl
  have second : 86400 * instant.civil.date.day + instant.civil.secondOfDay - 0 =
      instant.second := by
    rw [CivilTime.date, CivilTime.secondOfDay, Instant.civil]
    dsimp only
    omega
  have made : ofParts? (86400 * instant.civil.date.day + instant.civil.secondOfDay - 0)
      instant.nano = some instant := by
    rw [second, ofParts?, dif_pos instant.date_in_range, dif_pos instant.nano_lt,
      dif_pos instant.leap_closes_minute]
  have instantOf : instant.named.instant = .ok instant := by
    have zone : instant.named.offset = some 0 := rfl
    rw [TimeFields.instant, zone]
    dsimp only
    rw [bind_of_ok rfl, bind_of_ok civil, if_pos (by decide)]
    simp only [CivilTime.ofDate, made]
  rw [Timestamp.readStandardForm?, fields_toText]
  change instant.named.instant.toOption = _
  rw [instantOf]
  rfl

end Instant

end SignalReplay
