import SignalReplay.Market.Series
import SignalReplay.Proofs.Sorting

/-!
The candles of a series and those after an instant. A series is a list put in order of time. Halving
finds the place at which it splits, so that the candles after an instant are those whose own
timestamps are later, in the order of the series.
-/

namespace SignalReplay

namespace Candle

def isAfter (instant : Instant) (candle : Candle) : Bool :=
  instant.lt candle.timestamp

theorem isAfter_eq_not_le (instant : Instant) (candle : Candle) :
    candle.isAfter instant = !candle.timestamp.le instant := by
  have split := Instant.not_le candle.timestamp instant
  unfold isAfter
  cases earlier : candle.timestamp.le instant with
  | false => rw [split.mp earlier, Bool.not_false]
  | true =>
      cases later : instant.lt candle.timestamp with
      | false => rfl
      | true => rw [split.mpr later] at earlier; contradiction

theorem notLater_trans (left middle right : Candle) (first : left.notLater middle = true)
    (second : middle.notLater right = true) : left.notLater right = true :=
  Instant.le_trans _ _ _ first second

theorem notLater_total (left right : Candle) :
    (left.notLater right || right.notLater left) = true :=
  Instant.le_total _ _

end Candle

namespace CandleSeries

/-! ## Halving -/

/-- An index at which a series splits: the candles before it are not after the instant, and all
others are. -/
structure SplitsAt (candles : Array Candle) (instant : Instant) (split : Nat) : Prop where
  before : ∀ index (bounded : index < candles.size), index < split →
    candles[index].timestamp.le instant = true
  beyond : ∀ index (bounded : index < candles.size), split ≤ index →
    candles[index].timestamp.le instant = false

theorem le_of_ordered {candles : Array Candle}
    (ordered : candles.toList.Pairwise fun left right => left.notLater right = true)
    {left right : Nat} (inOrder : left ≤ right) (bounded : right < candles.size) :
    candles[left].timestamp.le candles[right].timestamp = true := by
  rcases Nat.eq_or_lt_of_le inOrder with equal | less
  · subst equal
    simpa using Instant.le_total candles[left].timestamp candles[left].timestamp
  · exact List.pairwise_iff_getElem.mp ordered left right (by simpa using by omega)
      (by simpa using bounded) less

theorem splitsAt_searchAfter {candles : Array Candle} {instant : Instant}
    (ordered : candles.toList.Pairwise fun left right => left.notLater right = true)
    (low high : Nat) (bounded : high ≤ candles.size) (inOrder : low ≤ high)
    (before : ∀ index (inside : index < candles.size), index < low →
      candles[index].timestamp.le instant = true)
    (after : ∀ index (inside : index < candles.size), high ≤ index →
      candles[index].timestamp.le instant = false) :
    SplitsAt candles instant (searchAfter candles instant low high bounded) := by
  fun_induction searchAfter candles instant low high bounded with
  | case1 low high bounded unfinished middle notAfter induction =>
      -- The candle in the middle is not after the instant, so no candle before it is.
      apply induction (by omega) _ after
      intro index inside less
      exact Instant.le_trans _ _ _ (le_of_ordered ordered (by omega) (by omega)) notAfter
  | case2 low high bounded unfinished middle isAfter induction =>
      apply induction (by omega) before
      intro index inside least
      cases notAfter : candles[index].timestamp.le instant with
      | false => rfl
      | true =>
          exact absurd (Instant.le_trans _ _ _ (le_of_ordered ordered least inside) notAfter)
            isAfter
  | case3 low high bounded finished =>
      have equal : low = high := by omega
      subst equal
      exact ⟨before, after⟩

theorem splitsAt_after (series : CandleSeries) (instant : Instant) :
    SplitsAt series.candles instant
      (searchAfter series.candles instant 0 series.candles.size (Nat.le_refl _)) := by
  apply splitsAt_searchAfter series.ordered
  · exact Nat.zero_le _
  · intro index _ less
    omega
  · intro index inside least
    omega

/-! ## Selection -/

theorem after_eq_filter (series : CandleSeries) (instant : Instant) :
    series.after instant = series.toList.filter (Candle.isAfter instant) := by
  rcases splitsAt_after series instant with ⟨before, beyond⟩
  unfold after
  generalize searchAfter series.candles instant 0 series.candles.size (Nat.le_refl _) = split at *
  have length : series.toList.length = series.candles.size := Array.length_toList
  -- Cut at the split, the list has no candle after the instant in front and only such behind.
  conv => rhs; rw [← List.take_append_drop split series.toList]
  rw [List.filter_append]
  have none : (series.toList.take split).filter (Candle.isAfter instant) = [] := by
    rw [List.filter_eq_nil_iff]
    intro candle member
    rcases List.getElem_of_mem member with ⟨index, inside, equal⟩
    rw [List.length_take, Nat.lt_min] at inside
    rw [List.getElem_take] at equal
    have notAfter := before index (length ▸ inside.2) inside.1
    rw [← Array.getElem_toList] at notAfter
    rw [Candle.isAfter_eq_not_le, ← equal]
    exact Bool.eq_false_iff.mp (congrArg not notAfter)
  have all : (series.toList.drop split).filter (Candle.isAfter instant) =
      series.toList.drop split := by
    rw [List.filter_eq_self]
    intro candle member
    rcases List.getElem_of_mem member with ⟨index, inside, equal⟩
    rw [List.length_drop] at inside
    rw [List.getElem_drop] at equal
    have isAfter := beyond (split + index) (by omega) (by omega)
    rw [← Array.getElem_toList] at isAfter
    rw [Candle.isAfter_eq_not_le, ← equal]
    exact congrArg not isAfter
  rw [none, all, List.nil_append]

@[simp]
theorem toList_ofList (candles : List Candle) :
    (ofList candles).toList = candles.mergeSort Candle.notLater := by
  unfold ofList toList
  rfl

@[simp]
theorem size_ofList (candles : List Candle) : (ofList candles).size = candles.length := by
  rw [size, ← Array.length_toList]
  exact List.length_mergeSort candles

theorem after_ofList (candles : List Candle) (instant : Instant) :
    (ofList candles).after instant =
      (candles.filter (Candle.isAfter instant)).mergeSort Candle.notLater := by
  rw [after_eq_filter, toList_ofList]
  exact Sorting.filter_mergeSort Candle.notLater_trans Candle.notLater_total _ _

/-! ## Series of any candles -/

/-- The same candles in order of time, where those of one timestamp stand as they stood before. -/
structure IsInTime (candles sorted : List Candle) : Prop where
  perm : sorted.Perm candles
  ordered : sorted.Pairwise fun left right => left.timestamp.le right.timestamp = true
  kept : ∀ instant, sorted.filter (·.timestamp = instant) =
    candles.filter (·.timestamp = instant)

theorem isInTime_ofList (candles : List Candle) : IsInTime candles (ofList candles).toList where
  perm := by
    rw [toList_ofList]
    exact List.mergeSort_perm candles _
  ordered := (ofList candles).ordered
  kept instant := by
    -- Candles of one timestamp are in order already, so sorting them changes nothing.
    have sorted : (candles.filter (·.timestamp = instant)).Pairwise fun left right =>
        left.notLater right = true := by
      rw [List.pairwise_filter]
      apply List.pairwise_of_forall
      intro left right isLeft isRight
      rw [decide_eq_true_eq] at isLeft isRight
      rw [Candle.notLater, isLeft, isRight]
      simpa using Instant.le_total instant instant
    rw [toList_ofList, Sorting.filter_mergeSort Candle.notLater_trans Candle.notLater_total,
      List.mergeSort_of_pairwise sorted]

/-- A series holds the candles of a list in order of time. Halving it finds what going through it
from the front finds, so that each candle of the list is either not after an instant or among the
candles after it, and never both. -/
theorem ofList_divided (candles : List Candle) (instant : Instant) :
    IsInTime candles (ofList candles).toList ∧
      (ofList candles).after instant =
        ((ofList candles).toList.filter fun candle => instant.lt candle.timestamp) ∧
      ∀ candle ∈ candles,
        (candle.timestamp.le instant = true ∨ candle ∈ (ofList candles).after instant) ∧
          ¬ (candle.timestamp.le instant = true ∧ candle ∈ (ofList candles).after instant) := by
  have inTime := isInTime_ofList candles
  have selected := after_eq_filter (ofList candles) instant
  refine ⟨inTime, selected, ?_⟩
  intro candle member
  have found : candle ∈ (ofList candles).after instant ↔ candle.timestamp.le instant = false := by
    rw [selected, List.mem_filter, inTime.perm.mem_iff, Candle.isAfter_eq_not_le,
      Bool.not_eq_true', and_iff_right member]
  rw [found]
  cases candle.timestamp.le instant <;> simp

end CandleSeries

end SignalReplay
