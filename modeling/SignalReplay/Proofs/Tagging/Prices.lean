import SignalReplay.Proofs.Binary64.Size
import SignalReplay.Proofs.Tagging.Replay

/-!
Trades at ordinary prices. Prices that are neither too great nor too small have a unit of risk
above zero, gains and moves that are finite in that unit, and a gain above zero exactly if the
target lies beyond the entry.
-/

namespace SignalReplay

open Binary64

/-- A price that is zero or, without its sign, between `2 ^ (-100)` and `2 ^ 100`. -/
def IsOrdinary (price : Quantity) : Prop :=
  OfSize 100 price.value

theorem isOrdinary_of_bits {price : Quantity}
    (least : 0x39B0000000000000 ≤ magnitudeBits price.value)
    (greatest : magnitudeBits price.value ≤ 0x4630000000000000) : IsOrdinary price := by
  have lower : magnitude 0x39B0000000000000 = 2 ^ (-100 : ℤ) := by
    norm_num [magnitude, significand, exponent, leadingBit]
  have upper : magnitude 0x4630000000000000 = 2 ^ (100 : ℤ) := by
    norm_num [magnitude, significand, exponent, leadingBit]
  have finite : 0x4630000000000000 < infinityBits := by decide
  refine ⟨⟨?_, ?_⟩, fun _ => ?_⟩
  · rw [isFinite_eq, decide_eq_true_eq]
    omega
  · rw [abs_toRat, ← upper]
    exact magnitude_le finite.le greatest
  · rw [abs_toRat, ← lower]
    exact magnitude_le (by omega) least

structure Candle.IsOrdinary (candle : Candle) : Prop where
  high : SignalReplay.IsOrdinary candle.high
  low : SignalReplay.IsOrdinary candle.low

namespace Signal

structure IsOrdinary (signal : Signal) : Prop where
  entry : SignalReplay.IsOrdinary signal.entry
  stop : SignalReplay.IsOrdinary signal.stop
  target : SignalReplay.IsOrdinary signal.target

def TargetsGain (signal : Signal) : Prop :=
  match signal.direction with
  | .long => signal.entry.value < signal.target.value
  | .short => signal.target.value < signal.entry.value

variable {signal : Signal} {candle : Candle}

/-! ## Risk -/

theorem ofSize_one : OfSize 152 1.0 ∧ 0 < toRat 1.0 := by
  have pattern : (1.0 : Float) = Float.ofBits 0x3FF0000000000000 := by decide +kernel
  rw [pattern]
  refine ⟨⟨⟨toRat_one.1, ?_⟩, ?_⟩, ?_⟩
  all_goals
    rw [toRat_one.2]
    norm_num

theorem ofSize_stopDistance (ordinary : signal.IsOrdinary) :
    OfSize 152 signal.stopDistance.value := by
  unfold stopDistance
  split
  · rw [Quantity.value_sub]
    exact ordinary.entry.sub ordinary.stop (by decide) (by decide)
  · rw [Quantity.value_sub]
    exact ordinary.stop.sub ordinary.entry (by decide) (by decide)

theorem ofSize_risk (ordinary : signal.IsOrdinary) :
    OfSize 152 signal.risk.value ∧ 0 < toRat signal.risk.value := by
  have size := ofSize_stopDistance ordinary
  unfold risk
  split
  · exact ofSize_one
  · next beyond =>
      refine ⟨size, ?_⟩
      rw [le_iff_toRat size.finite toRat_positive_zero.1, toRat_positive_zero.2, not_le] at beyond
      exact beyond

/-! ## Gains -/

theorem reward_spec (ordinary : signal.IsOrdinary) :
    OfSize 152 signal.reward.value ∧ (0 < toRat signal.reward.value ↔ signal.TargetsGain) := by
  unfold reward TargetsGain
  cases signal.direction with
  | long =>
      dsimp only
      rw [Quantity.value_sub, lt_iff_toRat ordinary.entry.finite ordinary.target.finite]
      exact ⟨ordinary.target.sub ordinary.entry (by decide) (by decide),
        ordinary.target.sub_pos_iff ordinary.entry (by decide) (by decide)⟩
  | short =>
      dsimp only
      rw [Quantity.value_sub, lt_iff_toRat ordinary.target.finite ordinary.entry.finite]
      exact ⟨ordinary.entry.sub ordinary.target (by decide) (by decide),
        ordinary.entry.sub_pos_iff ordinary.target (by decide) (by decide)⟩

theorem ofSize_gain (ordinary : signal.IsOrdinary) :
    OfSize 304 (signal.reward / signal.risk).value := by
  rcases ofSize_risk ordinary with ⟨riskSize, positive⟩
  rw [Quantity.value_div]
  exact OfSize.div (reward_spec ordinary).1 riskSize positive.ne' (by decide) (by decide)

theorem gain_pos_iff (ordinary : signal.IsOrdinary) :
    0 < (signal.reward / signal.risk).value ↔ signal.TargetsGain := by
  rcases ofSize_risk ordinary with ⟨riskSize, positive⟩
  rcases reward_spec ordinary with ⟨rewardSize, gains⟩
  rw [pos_iff_toRat (ofSize_gain ordinary).finite, ← gains, Quantity.value_div]
  exact OfSize.div_pos_iff rewardSize riskSize positive.ne' positive (by decide) (by decide)

/-! ## Moves -/

theorem ofSize_below (ordinary : signal.IsOrdinary) (candleOrdinary : candle.IsOrdinary)
    {distance : Float} (reached : Excursion.below? signal candle = some distance) :
    OfSize 152 distance := by
  unfold Excursion.below? at reached
  split at reached
  · exact Option.some.inj reached ▸ ordinary.entry.sub candleOrdinary.low (by decide) (by decide)
  · contradiction

theorem ofSize_above (ordinary : signal.IsOrdinary) (candleOrdinary : candle.IsOrdinary)
    {distance : Float} (reached : Excursion.above? signal candle = some distance) :
    OfSize 152 distance := by
  unfold Excursion.above? at reached
  split at reached
  · exact Option.some.inj reached ▸ candleOrdinary.high.sub ordinary.entry (by decide) (by decide)
  · contradiction

theorem ofSize_adverse (ordinary : signal.IsOrdinary) (candleOrdinary : candle.IsOrdinary)
    {distance : Float} (reached : Excursion.adverse? signal candle = some distance) :
    OfSize 152 distance := by
  unfold Excursion.adverse? at reached
  split at reached
  · exact ofSize_below ordinary candleOrdinary reached
  · exact ofSize_above ordinary candleOrdinary reached

theorem ofSize_favourable (ordinary : signal.IsOrdinary) (candleOrdinary : candle.IsOrdinary)
    {distance : Float} (reached : Excursion.favourable? signal candle = some distance) :
    OfSize 152 distance := by
  unfold Excursion.favourable? at reached
  split at reached
  · exact ofSize_above ordinary candleOrdinary reached
  · exact ofSize_below ordinary candleOrdinary reached

theorem mem_of_mem_seen {candles : List Candle} (member : candle ∈ signal.seen candles) :
    candle ∈ candles := by
  induction candles with
  | nil => exact member
  | cons first rest induction =>
      rw [seen_cons] at member
      split at member
      · exact List.mem_singleton.mp member ▸ List.mem_cons_self
      · rcases List.mem_cons.mp member with rfl | later
        · exact List.mem_cons_self
        · exact List.mem_cons_of_mem first (induction later)

theorem ofSize_reported {distance? : Signal → Candle → Option Float}
    (distances : ∀ {candle distance}, candle.IsOrdinary →
      distance? signal candle = some distance → OfSize 152 distance)
    (ordinary : signal.IsOrdinary) {candles : List Candle}
    (candlesOrdinary : ∀ candle ∈ candles, candle.IsOrdinary) {reported : Option Float}
    (reports : Reports (moves signal distance? (signal.seen candles)) reported) {move : Float}
    (found : reported = some move) : OfSize 304 move := by
  rcases List.mem_map.mp ((reports.present move).mp found).1.member with ⟨distance, kept, rfl⟩
  rcases List.mem_filterMap.mp kept with ⟨candle, wasSeen, reached⟩
  rcases ofSize_risk ordinary with ⟨riskSize, positive⟩
  have distanceSize := distances (candlesOrdinary candle (mem_of_mem_seen wasSeen)) reached
  exact OfSize.div distanceSize riskSize positive.ne' (by decide) (by decide)

end Signal

/-! ## Outcomes -/

structure Outcome.IsBounded (outcome : Outcome) : Prop where
  rMultiple : ∀ r, outcome.rMultiple = some r → OfSize 304 r.value
  adverse : ∀ move, outcome.adverse = some move → OfSize 304 move
  favourable : ∀ move, outcome.favourable = some move → OfSize 304 move
  exitPrice : ∀ price, outcome.exitPrice = some price → OfSize 100 price

namespace Signal

/-- A replay ends undecided and without an R-multiple, at the stop with a loss of one unit of risk,
or at the target with a win of the reward. -/
inductive Ending (signal : Signal) (outcome : Outcome) : Prop
  | unresolved (label : outcome.label = .unknown) (multiple : outcome.rMultiple = none)
    (exit : outcome.exitPrice = none)
  | lost (label : outcome.label = .loss) (multiple : outcome.rMultiple = some (.ofFloat (-1.0)))
    (exit : outcome.exitPrice = some signal.stop.value)
  | won (label : outcome.label = .win)
    (multiple : outcome.rMultiple = some (signal.reward / signal.risk))
    (exit : outcome.exitPrice = some signal.target.value)

theorem ending_tag (signal : Signal) (series : CandleSeries) (tieBreak : TieBreak) :
    signal.Ending (signal.tag series tieBreak) := by
  rw [tag, replay_eq]
  cases (series.after signal.timestamp).find? signal.touches with
  | none => exact .unresolved rfl rfl rfl
  | some candle =>
      rw [endedAt, ended]
      split
      · exact .lost rfl rfl rfl
      · exact .won rfl rfl rfl

theorem ofSize_loss : OfSize 304 (-1.0) :=
  (ofSize_one.1.weaken (by decide)).neg

theorem isBounded_tag {signal : Signal} (ordinary : signal.IsOrdinary) {series : CandleSeries}
    (candles : ∀ candle ∈ series.toList, candle.IsOrdinary) (tieBreak : TieBreak) :
    (signal.tag series tieBreak).IsBounded := by
  have after : ∀ candle ∈ series.after signal.timestamp, candle.IsOrdinary := by
    intro candle member
    exact candles candle (List.mem_of_mem_drop member)
  have ends := endsAs_replay signal tieBreak (series.after signal.timestamp)
  have adverse : ∀ move, (signal.tag series tieBreak).adverse = some move → OfSize 304 move :=
    fun _ => ofSize_reported (fun isOrdinary => ofSize_adverse ordinary isOrdinary) ordinary after
      (signal.moves_adverse _ ▸ ends.adverse)
  have favourable : ∀ move, (signal.tag series tieBreak).favourable = some move →
      OfSize 304 move :=
    fun _ => ofSize_reported (fun isOrdinary => ofSize_favourable ordinary isOrdinary) ordinary
      after (signal.moves_favourable _ ▸ ends.favourable)
  cases ending_tag signal series tieBreak with
  | unresolved label multiple exit =>
      refine ⟨fun r found => ?_, adverse, favourable, fun price found => ?_⟩
      · rw [multiple] at found
        cases found
      · rw [exit] at found
        cases found
  | lost label multiple exit =>
      refine ⟨fun r found => ?_, adverse, favourable, fun price found => ?_⟩
      · rw [multiple] at found
        exact Option.some.inj found ▸ ofSize_loss
      · rw [exit] at found
        exact Option.some.inj found ▸ ordinary.stop
  | won label multiple exit =>
      refine ⟨fun r found => ?_, adverse, favourable, fun price found => ?_⟩
      · rw [multiple] at found
        exact Option.some.inj found ▸ ofSize_gain ordinary
      · rw [exit] at found
        exact Option.some.inj found ▸ ordinary.target

end Signal

end SignalReplay
