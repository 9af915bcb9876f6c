import SignalReplay.Proofs.Binary64.Undefined
import SignalReplay.Proofs.Signal.Lines
import SignalReplay.Proofs.Tagging.History
import SignalReplay.Proofs.Tagging.Prices

/-!
The unit of risk. It is above zero, and 1 where the stop is not on the losing side of the entry,
exactly if the entry and the stop have a difference. The R-multiple of a win is a number exactly
if the reward has one, too, and not both distances are infinite.
-/

namespace SignalReplay.Signal

open Binary64

variable {signal : Signal} {series : CandleSeries} {tieBreak : TieBreak}

/-! ## Distances -/

theorem isNaN_stopDistance_eq_false_iff :
    signal.stopDistance.value.isNaN = false ↔
      HasDifference signal.entry.value signal.stop.value := by
  unfold stopDistance
  cases signal.direction with
  | long =>
      dsimp only
      rw [Quantity.value_sub, isNaN_sub_eq_false_iff]
  | short =>
      dsimp only
      rw [Quantity.value_sub, isNaN_sub_eq_false_iff]
      exact ⟨HasDifference.symm, HasDifference.symm⟩

theorem isNaN_reward_eq_false_iff :
    signal.reward.value.isNaN = false ↔
      HasDifference signal.entry.value signal.target.value := by
  unfold reward
  cases signal.direction with
  | long =>
      dsimp only
      rw [Quantity.value_sub, isNaN_sub_eq_false_iff]
      exact ⟨HasDifference.symm, HasDifference.symm⟩
  | short =>
      dsimp only
      rw [Quantity.value_sub, isNaN_sub_eq_false_iff]

theorem risk_of_isNaN (undefined : signal.stopDistance.value.isNaN = true) :
    signal.risk.value.isNaN = true ∧ signal.hasValidRisk = false := by
  constructor
  · rw [risk, if_neg (not_le_of_isNaN (.inl undefined)), undefined]
  · rw [hasValidRisk, decide_eq_false (not_lt_of_isNaN (.inr undefined))]

theorem risk_of_defined (defined : signal.stopDistance.value.isNaN = false) :
    0 < signal.risk.value ∧ (signal.hasValidRisk = false → signal.risk.value = 1.0) := by
  have zeroDefined : (0 : Float).isNaN = false := by decide
  by_cases atMost : signal.stopDistance.value ≤ 0
  · rw [risk, if_pos atMost, Quantity.value_ofFloat]
    exact ⟨by decide, fun _ => rfl⟩
  · have above := (not_le_iff defined zeroDefined).mp atMost
    rw [risk, if_neg atMost, hasValidRisk, decide_eq_true above]
    exact ⟨above, fun wrong => absurd wrong Bool.true_eq_false.mp⟩

theorem risk_pos_iff :
    0 < signal.risk.value ↔ HasDifference signal.entry.value signal.stop.value := by
  rw [← isNaN_stopDistance_eq_false_iff]
  cases undefined : signal.stopDistance.value.isNaN with
  | false => exact iff_of_true (risk_of_defined undefined).1 rfl
  | true =>
      exact iff_of_false (not_lt_of_isNaN (.inr (risk_of_isNaN undefined).1)) Bool.true_eq_false.mp

theorem unit_risk_iff :
    (signal.hasValidRisk = false → signal.risk.value = 1.0) ↔
      HasDifference signal.entry.value signal.stop.value := by
  rw [← isNaN_stopDistance_eq_false_iff]
  cases undefined : signal.stopDistance.value.isNaN with
  | false => exact iff_of_true (risk_of_defined undefined).2 rfl
  | true =>
      rcases risk_of_isNaN undefined with ⟨riskUndefined, invalid⟩
      refine iff_of_false (fun unit => ?_) Bool.true_eq_false.mp
      rw [unit invalid] at riskUndefined
      exact absurd riskUndefined (by decide)

/-! ## Wins -/

theorem rMultiple_tag_of_win (win : (signal.tag series tieBreak).label = .win) :
    (signal.tag series tieBreak).rMultiple = some (signal.reward / signal.risk) := by
  cases ending_tag signal series tieBreak with
  | unresolved label => rw [label] at win; cases win
  | lost label => rw [label] at win; cases win
  | won _ multiple _ => exact multiple

theorem isNaN_multiple_eq_false_iff :
    (signal.reward / signal.risk).value.isNaN = false ↔
      HasDifference signal.entry.value signal.stop.value ∧
        HasDifference signal.entry.value signal.target.value ∧
        (signal.reward.value.isFinite = true ∨ signal.risk.value.isFinite = true) := by
  rw [Quantity.value_div, ← isNaN_stopDistance_eq_false_iff, ← isNaN_reward_eq_false_iff]
  cases undefined : signal.stopDistance.value.isNaN with
  | true =>
      simp only [isNaN_div_of_isNaN (.inr (risk_of_isNaN undefined).1), Bool.true_eq_false,
        false_and]
  | false => rw [isNaN_div_eq_false_iff (risk_of_defined undefined).1, eq_self, true_and]

/-- Prices of `2 ^ 1023` on both sides of zero are finite, and both distances are infinite. -/
example :
    let great := Float.ofBits 0x7FE0000000000000
    let signal : Signal := { longAtHundred ⟨0, 0, by decide, by decide, by decide⟩ with
      entry := .ofFloat great, stop := .ofFloat (-great), target := .ofFloat (-great) }
    (signal.reward / signal.risk).value.isNaN = true := by
  decide

/-- The risk is above zero, and 1 wherever the stop is not on the losing side, exactly if the entry
and the stop have a difference. A win has an R-multiple that is a number exactly if the entry and
the target have one, too, and not both distances are infinite. -/
theorem risk_usable_iff (signal : Signal) :
    (0 < signal.risk.value ↔ HasDifference signal.entry.value signal.stop.value) ∧
      ((signal.hasValidRisk = false → signal.risk.value = 1.0) ↔
        HasDifference signal.entry.value signal.stop.value) ∧
      ∀ series tieBreak, (signal.tag series tieBreak).label = .win →
        ∃ r, (signal.tag series tieBreak).rMultiple = some r ∧
          (r.value.isNaN = false ↔
            HasDifference signal.entry.value signal.stop.value ∧
              HasDifference signal.entry.value signal.target.value ∧
              (signal.reward.value.isFinite = true ∨ signal.risk.value.isFinite = true)) := by
  refine ⟨risk_pos_iff, unit_risk_iff, fun series tieBreak win => ?_⟩
  exact ⟨_, rMultiple_tag_of_win win, isNaN_multiple_eq_false_iff⟩

theorem risk_usable_at_a_target :
    let signal := longAtHundred ⟨0, 0, by decide, by decide, by decide⟩
    let series := CandleSeries.ofList
      [swing ⟨60, 0, by decide, by decide, by decide⟩ 100.0 103.0]
    (signal.tag series .loss).label = .win ∧ 0 < signal.risk.value ∧
      ∃ r, (signal.tag series .loss).rMultiple = some r ∧ r.value.isNaN = false := by
  intro signal series
  have win : (signal.tag series .loss).label = .win :=
    (tag_won_alone (by decide) (by decide) (by decide) .loss).1
  have stopApart : HasDifference signal.entry.value signal.stop.value :=
    ⟨by decide, by decide, fun _ => by decide⟩
  have targetApart : HasDifference signal.entry.value signal.target.value :=
    ⟨by decide, by decide, fun _ => by decide⟩
  rcases risk_usable_iff signal with ⟨positive_iff, -, defined_iff⟩
  rcases defined_iff series .loss win with ⟨r, given, defined⟩
  exact ⟨win, positive_iff.mpr stopApart, r, given,
    defined.mpr ⟨stopApart, targetApart, .inr (by decide)⟩⟩

/-- An undefined stop is loaded, and it leaves the risk undefined, although it is not on the losing
side. A win then has an undefined R-multiple. -/
theorem risk_unusable_with_undefined_stop :
    let candle := swing ⟨1704186300, 0, by decide, by decide, by decide⟩ 100.0 103.0
    ∃ signal,
      SignalLines.read Timestamp.standardPattern "signals.jsonl"
        (SignalLines.longLine "\"sl\": \"NaN\", \"tp\": 102") = .ok [signal] ∧
      ¬ 0 < signal.risk.value ∧ signal.hasValidRisk = false ∧ signal.risk.value ≠ 1.0 ∧
      (signal.tag (.ofList [candle]) .loss).label = .win ∧
      ∃ r, (signal.tag (.ofList [candle]) .loss).rMultiple = some r ∧ r.value.isNaN = true := by
  intro candle
  have loaded : (SignalLines.signals Timestamp.standardPattern 1
      (Text.lines (SignalLines.longLine "\"sl\": \"NaN\", \"tp\": 102"))).toOption.map
        (·.map fun signal => (signal.timestamp, signal.direction, signal.entry, signal.stop,
          signal.target)) =
      some [(⟨1704186000, 0, by decide, by decide, by decide⟩, .long, .ofFloat 100.0,
        .withSign false Numeral.notANumber, .ofFloat 102.0)] := by decide +kernel
  rcases SignalLines.exists_read_singleton loaded with ⟨signal, read, view⟩
  simp only [Prod.mk.injEq] at view
  rcases view with ⟨time, direction, entry, stop, target⟩
  have undefined : signal.stopDistance.value.isNaN = true := by
    rw [stopDistance, direction, entry, stop]
    decide
  rcases risk_of_isNaN undefined with ⟨riskUndefined, invalid⟩
  have isAfter : candle.isAfter signal.timestamp = true := by
    rw [time]
    decide
  have untouched : signal.touchesStop candle = false := by
    rw [touchesStop, direction, stop]
    decide
  have reached : signal.touchesTarget candle = true := by
    rw [touchesTarget, direction, target]
    decide
  rcases tag_won_alone isAfter untouched reached .loss with ⟨win, multiple⟩
  refine ⟨signal, read, not_lt_of_isNaN (.inr riskUndefined), invalid, ?_, win, _, multiple, ?_⟩
  · intro unit
    rw [unit] at riskUndefined
    exact absurd riskUndefined (by decide)
  · rw [Quantity.value_div]
    exact isNaN_div_of_isNaN (.inr riskUndefined)

end SignalReplay.Signal
