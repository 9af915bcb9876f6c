import SignalReplay.Proofs.Binary64.Negation
import SignalReplay.Proofs.Tagging.Replay

/-!
Trades reflected at the price of zero. Negating all prices turns highs into lows and long trades
into short ones, and the reflected replay ends at the reflected candle with the same figures.
-/

namespace SignalReplay

open Binary64

/-! ## Reflected trades and candles -/

namespace Quantity

instance : Neg Quantity where
  neg quantity := withSign (!quantity.negativeUndefined) (-quantity.value)

@[simp]
theorem value_neg (quantity : Quantity) : (-quantity).value = -quantity.value :=
  value_withSign _ _

end Quantity

def Direction.opposite : Direction → Direction
  | .long => .short
  | .short => .long

def Signal.reflected (signal : Signal) : Signal :=
  { signal with
    direction := signal.direction.opposite
    entry := -signal.entry
    stop := -signal.stop
    target := -signal.target }

/-- The candle of negated prices, in which the low is the top. -/
def Candle.reflected (candle : Candle) : Candle :=
  { candle with
    opening := -candle.opening
    high := -candle.low
    low := -candle.high
    closing := -candle.closing }

def CandleSeries.reflected (series : CandleSeries) : CandleSeries :=
  .ofList (series.toList.map Candle.reflected)

/-- An outcome and that of the reflected trade: all figures in units of risk are the same, and the
trades leave at prices of opposite signs. A figure that is undefined is so on both sides. -/
structure Outcome.Reflects (reflected outcome : Outcome) : Prop where
  signalId : reflected.signalId = outcome.signalId
  label : reflected.label = outcome.label
  rMultiple : reflected.rMultiple.map (·.value) = outcome.rMultiple.map (·.value)
  adverse : reflected.adverse = outcome.adverse
  favourable : reflected.favourable = outcome.favourable
  exitPrice : reflected.exitPrice = outcome.exitPrice.map fun price => -price
  exitTime : reflected.exitTime = outcome.exitTime

/-! ## One candle -/

namespace Signal

variable (signal : Signal) (candle : Candle)

@[simp]
theorem stopDistance_reflected :
    signal.reflected.stopDistance.value = signal.stopDistance.value := by
  unfold stopDistance
  cases direction : signal.direction <;>
    simp [reflected, direction, Direction.opposite]

@[simp]
theorem reward_reflected : signal.reflected.reward.value = signal.reward.value := by
  unfold reward
  cases direction : signal.direction <;>
    simp [reflected, direction, Direction.opposite]

@[simp]
theorem risk_reflected : signal.reflected.risk.value = signal.risk.value := by
  unfold risk
  rw [stopDistance_reflected]
  split
  · rfl
  · exact stopDistance_reflected signal

theorem gain_reflected :
    (signal.reflected.reward / signal.reflected.risk).value =
      (signal.reward / signal.risk).value := by
  simp

@[simp]
theorem below?_reflected :
    Excursion.below? signal.reflected candle.reflected = Excursion.above? signal candle := by
  simp [Excursion.below?, Excursion.above?, reflected, Candle.reflected]

@[simp]
theorem above?_reflected :
    Excursion.above? signal.reflected candle.reflected = Excursion.below? signal candle := by
  simp [Excursion.below?, Excursion.above?, reflected, Candle.reflected]

@[simp]
theorem adverse?_reflected :
    Excursion.adverse? signal.reflected candle.reflected = Excursion.adverse? signal candle := by
  unfold Excursion.adverse?
  rw [below?_reflected, above?_reflected]
  cases direction : signal.direction <;> simp only [reflected, direction, Direction.opposite]

@[simp]
theorem favourable?_reflected :
    Excursion.favourable? signal.reflected candle.reflected =
      Excursion.favourable? signal candle := by
  unfold Excursion.favourable?
  rw [below?_reflected, above?_reflected]
  cases direction : signal.direction <;> simp only [reflected, direction, Direction.opposite]

@[simp]
theorem update_reflected (excursion : Excursion) :
    excursion.update signal.reflected candle.reflected = excursion.update signal candle := by
  simp [Excursion.update]

@[simp]
theorem touchesStop_reflected :
    signal.reflected.touchesStop candle.reflected = signal.touchesStop candle := by
  unfold touchesStop
  cases direction : signal.direction <;>
    simp [reflected, Candle.reflected, direction, Direction.opposite]

@[simp]
theorem touchesTarget_reflected :
    signal.reflected.touchesTarget candle.reflected = signal.touchesTarget candle := by
  unfold touchesTarget
  cases direction : signal.direction <;>
    simp [reflected, Candle.reflected, direction, Direction.opposite]

@[simp]
theorem touches_reflected : signal.reflected.touches candle.reflected = signal.touches candle := by
  simp [touches]

theorem reflects_unresolved (excursion : Excursion) :
    (signal.reflected.unresolved excursion).Reflects (signal.unresolved excursion) :=
  ⟨rfl, rfl, rfl, rfl, rfl, rfl, rfl⟩

theorem reflects_ended (excursion : Excursion) :
    (signal.reflected.ended candle.reflected excursion).Reflects (signal.ended candle excursion) := by
  rw [ended, ended, touchesStop_reflected]
  split
  · exact ⟨rfl, rfl, rfl, rfl, rfl, congrArg some (Quantity.value_neg _), rfl⟩
  · exact ⟨rfl, rfl, congrArg some (gain_reflected signal), rfl, rfl,
      congrArg some (Quantity.value_neg _), rfl⟩

/-! ## All candles -/

theorem reflects_replay (tieBreak : TieBreak) (excursion : Excursion) (candles : List Candle) :
    (signal.reflected.replay tieBreak excursion (candles.map Candle.reflected)).Reflects
      (signal.replay tieBreak excursion candles) := by
  induction candles generalizing excursion with
  | nil => exact reflects_unresolved signal excursion
  | cons candle rest induction =>
      rw [List.map_cons]
      have same := touches_reflected signal candle
      cases touched : signal.touches candle with
      | true =>
          rw [replay_touched touched, replay_touched (same.trans touched), update_reflected]
          exact reflects_ended signal candle _
      | false =>
          rw [replay_untouched touched, replay_untouched (same.trans touched), update_reflected]
          exact induction _

end Signal

@[simp]
theorem CandleSeries.toList_reflected (series : CandleSeries) :
    series.reflected.toList = series.toList.map Candle.reflected := by
  rw [reflected, toList_ofList]
  -- The timestamps are kept, so the reflected candles are in order already.
  exact List.mergeSort_of_pairwise (List.pairwise_map.mpr series.ordered)

@[simp]
theorem CandleSeries.after_reflected (series : CandleSeries) (instant : Instant) :
    series.reflected.after instant = (series.after instant).map Candle.reflected := by
  rw [after_eq_filter, after_eq_filter, toList_reflected, List.filter_map]
  rfl

/-- Long and short trades are treated alike: the reflected trade over the reflected candles ends
with the same label at the same time, gains and moves as much in units of risk, and leaves at the
negated price. -/
theorem reflects_tag (signal : Signal) (series : CandleSeries) (tieBreak : TieBreak) :
    (signal.reflected.tag series.reflected tieBreak).Reflects (signal.tag series tieBreak) := by
  rw [Signal.tag, Signal.tag, CandleSeries.after_reflected]
  exact signal.reflects_replay tieBreak {} _

end SignalReplay
