import SignalReplay.Proofs.Binary64.Sign
import SignalReplay.Tagging

/-!
Excursions as greatest moves. A move in units of risk is undefined or not negative, so a maximum
that begins at zero is the greatest of the moves that are defined, and a maximum of zero tells that
no candle moved at all.
-/

namespace SignalReplay

open Binary64

/-! ## Maxima -/

theorem ite_lt_eq_greater {left : Float} (defined : left.isNaN = false) (right : Float) :
    (if left < right then right else left) = greater left right := by
  rw [greater, defined, if_neg Bool.false_ne_true]
  cases undefined : right.isNaN with
  | false => rw [if_neg Bool.false_ne_true]
  | true =>
      have incomparable : ¬ left < right := by
        rw [lt_iff, undefined]
        simp
      rw [if_neg incomparable, if_pos rfl]

theorem isNaN_greater {left : Float} (defined : left.isNaN = false) (right : Float) :
    (greater left right).isNaN = false := by
  unfold greater
  rw [if_neg (by rw [defined]; decide)]
  split
  · exact defined
  · next rightDefined =>
      rw [Bool.not_eq_true] at rightDefined
      split
      · exact rightDefined
      · exact defined

theorem orderKey_le_greater {left : Float} (defined : left.isNaN = false) (right : Float) :
    orderKey left ≤ orderKey (greater left right) := by
  unfold greater
  rw [if_neg (by rw [defined]; decide)]
  split
  · exact Int.le_refl _
  · split
    · next less => exact Int.le_of_lt (lt_iff.mp less).2.2
    · exact Int.le_refl _

theorem orderKey_le_greater_right {left right : Float} (defined : left.isNaN = false)
    (rightDefined : right.isNaN = false) : orderKey right ≤ orderKey (greater left right) := by
  unfold greater
  rw [if_neg (by rw [defined]; decide), if_neg (by rw [rightDefined]; decide)]
  split
  · exact Int.le_refl _
  · next notLess =>
      rw [lt_iff] at notLess
      have reversed : ¬ orderKey left < orderKey right := fun less =>
        notLess ⟨defined, rightDefined, less⟩
      omega

theorem le_greater {left : Float} (defined : left.isNaN = false) (right : Float) :
    left ≤ greater left right :=
  le_iff.mpr ⟨defined, isNaN_greater defined right, orderKey_le_greater defined right⟩

theorem le_greater_right {left right : Float} (defined : left.isNaN = false)
    (rightDefined : right.isNaN = false) : right ≤ greater left right :=
  le_iff.mpr ⟨rightDefined, isNaN_greater defined right,
    orderKey_le_greater_right defined rightDefined⟩

theorem greater_eq {left : Float} (defined : left.isNaN = false) (right : Float) :
    greater left right = left ∨
      greater left right = right ∧ orderKey left < orderKey right := by
  unfold greater
  rw [if_neg (by rw [defined]; decide)]
  split
  · exact .inl rfl
  · split
    · next less => exact .inr ⟨rfl, (lt_iff.mp less).2.2⟩
    · exact .inl rfl

theorem isNaN_foldl_greater {start : Float} (defined : start.isNaN = false)
    (values : List Float) : (values.foldl greater start).isNaN = false := by
  induction values generalizing start with
  | nil => exact defined
  | cons value values induction => exact induction (isNaN_greater defined value)

theorem orderKey_le_foldl_greater {start : Float} (defined : start.isNaN = false)
    (values : List Float) : orderKey start ≤ orderKey (values.foldl greater start) := by
  induction values generalizing start with
  | nil => exact Int.le_refl _
  | cons value values induction =>
      exact Int.le_trans (orderKey_le_greater defined value)
        (induction (isNaN_greater defined value))

theorem orderKey_member_le_foldl_greater {start : Float} (defined : start.isNaN = false)
    {values : List Float} {value : Float} (member : value ∈ values)
    (valueDefined : value.isNaN = false) :
    orderKey value ≤ orderKey (values.foldl greater start) := by
  induction values generalizing start with
  | nil => cases member
  | cons head values induction =>
      rcases List.mem_cons.mp member with equal | member
      · subst equal
        exact Int.le_trans (orderKey_le_greater_right defined valueDefined)
          (orderKey_le_foldl_greater (isNaN_greater defined value) values)
      · exact induction (isNaN_greater defined head) member

theorem foldl_greater_eq {start : Float} (defined : start.isNaN = false) (values : List Float) :
    values.foldl greater start = start ∨
      values.foldl greater start ∈ values ∧
        orderKey start < orderKey (values.foldl greater start) := by
  induction values generalizing start with
  | nil => exact .inl rfl
  | cons value values induction =>
      rw [List.foldl_cons]
      rcases induction (isNaN_greater defined value) with kept | ⟨member, less⟩
      · rw [kept]
        rcases greater_eq defined value with equal | ⟨equal, less⟩
        · exact .inl equal
        · rw [equal]
          exact .inr ⟨List.mem_cons_self, less⟩
      · exact .inr ⟨List.mem_cons_of_mem _ member,
          Int.lt_of_le_of_lt (orderKey_le_greater defined value) less⟩

/-! ## Moves -/

/-- The moves of candles in units of risk, for one side of the entry. Candles that do not reach
beyond the entry on that side have none. -/
def moves (signal : Signal) (distance? : Signal → Candle → Option Float)
    (candles : List Candle) : List Float :=
  (candles.filterMap (distance? signal)).map fun distance => distance / signal.risk.value

theorem unsigned_risk (signal : Signal) : Unsigned signal.risk.value.toModel.unpack := by
  unfold Signal.risk
  split
  · exact unsigned_unpack (by decide)
  · next beyond =>
      cases undefined : signal.stopDistance.value.isNaN with
      | true => exact unsigned_unpack_of_isNaN undefined
      | false =>
          apply unsigned_unpack
          apply isNegative_of_orderKey_pos
          rw [le_iff, orderKey_zero] at beyond
          have positive : ¬ orderKey signal.stopDistance.value ≤ 0 := fun least =>
            beyond ⟨undefined, by decide, least⟩
          omega

theorem isNegative_below {signal : Signal} {candle : Candle} {distance : Float}
    (reached : Excursion.below? signal candle = some distance) : isNegative distance = false := by
  unfold Excursion.below? at reached
  split at reached
  · next less => exact Option.some.inj reached ▸ isNegative_sub less
  · contradiction

theorem isNegative_above {signal : Signal} {candle : Candle} {distance : Float}
    (reached : Excursion.above? signal candle = some distance) : isNegative distance = false := by
  unfold Excursion.above? at reached
  split at reached
  · next less => exact Option.some.inj reached ▸ isNegative_sub less
  · contradiction

theorem isNegative_adverse {signal : Signal} {candle : Candle} {distance : Float}
    (reached : Excursion.adverse? signal candle = some distance) :
    isNegative distance = false := by
  unfold Excursion.adverse? at reached
  cases direction : signal.direction with
  | long => exact isNegative_below (by simpa only [direction] using reached)
  | short => exact isNegative_above (by simpa only [direction] using reached)

theorem isNegative_favourable {signal : Signal} {candle : Candle} {distance : Float}
    (reached : Excursion.favourable? signal candle = some distance) :
    isNegative distance = false := by
  unfold Excursion.favourable? at reached
  cases direction : signal.direction with
  | long => exact isNegative_above (by simpa only [direction] using reached)
  | short => exact isNegative_below (by simpa only [direction] using reached)

theorem isNegative_moves {signal : Signal} {distance? : Signal → Candle → Option Float}
    (unsigned : ∀ {candle distance}, distance? signal candle = some distance →
      isNegative distance = false)
    {candles : List Candle} {move : Float} (member : move ∈ moves signal distance? candles) :
    isNegative move = false := by
  rcases List.mem_map.mp member with ⟨distance, found, equal⟩
  rcases List.mem_filterMap.mp found with ⟨candle, _, reached⟩
  rw [← equal]
  exact isNegative_div (unsigned reached) (unsigned_risk signal)

/-- The greatest of numbers, leaving out those that are undefined. -/
structure IsGreatestDefined (values : List Float) (greatest : Float) : Prop where
  member : greatest ∈ values
  defined : greatest.isNaN = false
  bound : ∀ value ∈ values, value.isNaN = false → value ≤ greatest

/-- What is reported of the moves of a replay: their greatest, unless it is zero or there is
none. -/
structure Reports (values : List Float) (reported : Option Float) : Prop where
  present : ∀ greatest, reported = some greatest ↔
    IsGreatestDefined values greatest ∧ (greatest == 0) = false
  absent : reported = none ↔ ∀ greatest, IsGreatestDefined values greatest → greatest == 0

theorem isGreatestDefined_foldl_greater {values : List Float}
    (nonzero : (values.foldl greater 0 == 0) = false) :
    IsGreatestDefined values (values.foldl greater 0) := by
  have zero : (0 : Float).isNaN = false := by decide
  have defined := isNaN_foldl_greater zero values
  refine ⟨?_, defined, ?_⟩
  · rcases foldl_greater_eq zero values with equal | ⟨member, _⟩
    · rw [equal] at nonzero
      exact absurd nonzero (by decide)
    · exact member
  · intro value member valueDefined
    exact le_iff.mpr
      ⟨valueDefined, defined, orderKey_member_le_foldl_greater zero member valueDefined⟩

theorem eq_foldl_greater {values : List Float}
    (unsigned : ∀ value ∈ values, isNegative value = false) {greatest : Float}
    (isGreatest : IsGreatestDefined values greatest) (nonzero : (greatest == 0) = false) :
    values.foldl greater 0 = greatest := by
  have zero : (0 : Float).isNaN = false := by decide
  rcases isGreatest with ⟨member, defined, bound⟩
  have nonzeroKey := orderKey_ne_zero defined nonzero
  have least := orderKey_member_le_foldl_greater zero member defined
  have nonnegative := orderKey_nonneg (unsigned greatest member)
  symm
  apply eq_of_orderKey_eq _ nonzeroKey
  rcases foldl_greater_eq zero values with equal | ⟨found, _⟩
  · rw [equal, orderKey_zero] at least ⊢
    omega
  · have most := (le_iff.mp (bound _ found (isNaN_foldl_greater zero values))).2.2
    omega

theorem reports_foldl_greater {values : List Float}
    (unsigned : ∀ value ∈ values, isNegative value = false) :
    Reports values (Excursion.reported (values.foldl greater 0)) := by
  have present (greatest : Float) : Excursion.reported (values.foldl greater 0) = some greatest ↔
      IsGreatestDefined values greatest ∧ (greatest == 0) = false := by
    unfold Excursion.reported
    constructor
    · intro equal
      split at equal
      · contradiction
      · next nonzero =>
          rw [Bool.not_eq_true] at nonzero
          rw [← Option.some.inj equal]
          exact ⟨isGreatestDefined_foldl_greater nonzero, nonzero⟩
    · rintro ⟨isGreatest, nonzero⟩
      rw [eq_foldl_greater unsigned isGreatest nonzero]
      exact if_neg (by rw [Bool.not_eq_true]; exact nonzero)
  refine ⟨present, ?_⟩
  rw [Option.eq_none_iff_forall_ne_some]
  refine forall_congr' fun greatest => ?_
  rw [ne_eq, present, not_and, Bool.not_eq_false]

/-- A report that is absent or a number above zero. What is undefined compares with nothing and is
not above zero. -/
def AbsentOrPositive (reported : Option Float) : Prop :=
  reported = none ∨ ∃ move, reported = some move ∧ 0 < move

theorem Reports.absentOrPositive {values : List Float}
    (unsigned : ∀ value ∈ values, isNegative value = false) {reported : Option Float}
    (reports : Reports values reported) : AbsentOrPositive reported := by
  cases found : reported with
  | none => exact .inl rfl
  | some move =>
      rcases (reports.present move).mp found with ⟨⟨member, defined, -⟩, nonzero⟩
      have nonzeroKey := orderKey_ne_zero defined nonzero
      have nonnegative := orderKey_nonneg (unsigned move member)
      refine .inr ⟨move, rfl, ?_⟩
      rw [lt_iff, orderKey_zero]
      exact ⟨by decide, defined, by omega⟩

end SignalReplay
