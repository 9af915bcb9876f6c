import SignalReplay.Metrics.Corpus
import SignalReplay.Proofs.Metrics.Summary

/-!
The two readings kept apart. Outcomes from elsewhere may be labelled in any way and may lack an
R-multiple, so each figure has to keep to what it reads: signs go by the R-multiples that are
present, summaries by the outcomes that have a label and an R-multiple, and the counts of trades by
the labels.
-/

namespace SignalReplay

variable {left right outcomes : List Outcome}

/-! ## By sign -/

namespace CorpusMetrics

structure SignsAlike (left right : CorpusMetrics) : Prop where
  wins : left.wins = right.wins
  losses : left.losses = right.losses
  breakEven : left.breakEven = right.breakEven
  winRate : left.winRate = right.winRate
  lossRate : left.lossRate = right.lossRate
  breakEvenRate : left.breakEvenRate = right.breakEvenRate
  profitFactor : left.profitFactor = right.profitFactor
  averageR : left.averageR = right.averageR
  maxR : left.maxR = right.maxR
  minR : left.minR = right.minR
  maxDrawdown : left.maxDrawdown = right.maxDrawdown
  maxWinStreak : left.maxWinStreak = right.maxWinStreak
  maxLossStreak : left.maxLossStreak = right.maxLossStreak
  histogram : left.histogram = right.histogram

theorem signsAlike_of_multiples (edges : HistogramEdges)
    (same : Metrics.rMultiples left = Metrics.rMultiples right) :
    (ofOutcomes edges left).SignsAlike (ofOutcomes edges right) where
  wins := by simp only [ofOutcomes, same]
  losses := by simp only [ofOutcomes, same]
  breakEven := by simp only [ofOutcomes, same]
  winRate := by simp only [ofOutcomes, same]
  lossRate := by simp only [ofOutcomes, same]
  breakEvenRate := by simp only [ofOutcomes, same]
  profitFactor := by simp only [ofOutcomes, Metrics.profitFactor, same]
  averageR := by simp only [ofOutcomes, same]
  maxR := by simp only [ofOutcomes, same]
  minR := by simp only [ofOutcomes, same]
  maxDrawdown := by simp only [ofOutcomes, Metrics.maxDrawdown, same]
  maxWinStreak := by simp only [ofOutcomes, Metrics.maxWinStreak, Metrics.streaks, same]
  maxLossStreak := by simp only [ofOutcomes, Metrics.maxLossStreak, Metrics.streaks, same]
  histogram := by simp only [ofOutcomes, Metrics.histogram, same]

end CorpusMetrics

/-! ## By outcome -/

namespace Metrics

/-- The labels and R-multiples of what is left without the outcomes labelled as unknown and without
those that have no R-multiple. -/
def labelledMultiples (outcomes : List Outcome) : List (OutcomeLabel × Option Quantity) :=
  ((outcomes.filter (·.label ≠ .unknown)).filter (·.rMultiple.isSome)).map fun outcome =>
    (outcome.label, outcome.rMultiple)

theorem labelledMultiples_eq (outcomes : List Outcome) :
    labelledMultiples outcomes =
      (outcomes.filter (·.isEvaluable)).map fun outcome => (outcome.label, outcome.rMultiple) := by
  rw [labelledMultiples, List.filter_filter]
  congr 2
  funext outcome
  have resolved : decide (outcome.label ≠ .unknown) = outcome.label.isResolved := by
    cases outcome.label <;> rfl
  rw [resolved, Bool.and_comm, Outcome.isEvaluable]

theorem distribution_eq (outcomes : List Outcome) :
    distribution outcomes = (labelledMultiples outcomes).filterMap Prod.snd := by
  rw [labelledMultiples_eq, List.filterMap_map]
  rfl

theorem labelRate_eq_rate (label : OutcomeLabel) (outcomes : List Outcome) :
    labelRate label outcomes =
      rate ((labelledMultiples outcomes).countP (·.1 = label))
        (labelledMultiples outcomes).length := by
  rw [labelledMultiples_eq, List.countP_map, List.length_map]
  rfl

theorem count_ofOutcomes (outcomes : List Outcome) :
    (GroupSummary.ofOutcomes outcomes).count = (labelledMultiples outcomes).length := by
  rw [labelledMultiples_eq, List.length_map, ← List.countP_eq_length_filter]
  rfl

structure SummariesAlike (left right : List Outcome) : Prop where
  distribution : distribution left = distribution right
  expectancy : expectancy left = expectancy right
  winRate : winRate left = winRate right
  breakEvenRate : breakEvenRate left = breakEvenRate right
  summary : GroupSummary.ofOutcomes left = GroupSummary.ofOutcomes right

theorem summariesAlike_of_labelledMultiples
    (same : labelledMultiples left = labelledMultiples right) : SummariesAlike left right := by
  have distribution : distribution left = distribution right := by
    rw [distribution_eq, distribution_eq, same]
  have expectancy : expectancy left = expectancy right := congrArg meanQuantity distribution
  have rates (label : OutcomeLabel) : labelRate label left = labelRate label right := by
    rw [labelRate_eq_rate, labelRate_eq_rate, same]
  have count : (GroupSummary.ofOutcomes left).count = (GroupSummary.ofOutcomes right).count := by
    rw [count_ofOutcomes, count_ofOutcomes, same]
  refine ⟨distribution, expectancy, rates .win, rates .breakEven, ?_⟩
  rw [GroupSummary.ofOutcomes, GroupSummary.ofOutcomes, GroupSummary.mk.injEq]
  exact ⟨count, congrArg Quantity.value expectancy, rates .win, rates .breakEven⟩

end Metrics

/-! ## By label -/

namespace CorpusMetrics

structure TradesAlike (left right : CorpusMetrics) : Prop where
  sampleSize : left.sampleSize = right.sampleSize
  completed : left.completed = right.completed
  unknown : left.unknown = right.unknown

theorem tradesAlike_of_labels (edges others : HistogramEdges)
    (same : left.map (·.label) = right.map (·.label)) :
    (ofOutcomes edges left).TradesAlike (ofOutcomes others right) := by
  have counts (test : OutcomeLabel → Bool) :
      left.countP (fun outcome => test outcome.label) =
        right.countP fun outcome => test outcome.label := by
    have counted := congrArg (List.countP test) same
    rwa [List.countP_map, List.countP_map] at counted
  have lengths := congrArg List.length same
  rw [List.length_map, List.length_map] at lengths
  exact ⟨lengths, counts fun label => label = .win || label = .loss, counts (· = .unknown)⟩

end CorpusMetrics

namespace Metrics

/-- Each figure keeps to its own reading. The figures by sign are the same for the same R-multiples,
whatever the labels and wherever outcomes without an R-multiple stand; summaries are the same for
the same labels and R-multiples among the outcomes that have both; and the counts of trades are the
same for the same labels, whatever else the outcomes hold. -/
theorem readings_kept_apart (left right : List Outcome) :
    ((left.filterMap (·.rMultiple)).map (·.value) =
        (right.filterMap (·.rMultiple)).map (·.value) →
      ∀ edges, (CorpusMetrics.ofOutcomes edges left).SignsAlike (.ofOutcomes edges right)) ∧
    (labelledMultiples left = labelledMultiples right → SummariesAlike left right) ∧
    (left.map (·.label) = right.map (·.label) →
      ∀ edges others,
        (CorpusMetrics.ofOutcomes edges left).TradesAlike (.ofOutcomes others right)) := by
  refine ⟨fun same edges => ?_, summariesAlike_of_labelledMultiples, fun same edges others => ?_⟩
  · rw [map_value_filterMap, map_value_filterMap] at same
    exact CorpusMetrics.signsAlike_of_multiples edges same
  · exact CorpusMetrics.tradesAlike_of_labels edges others same

def labelledBySign : List Outcome := [
  .labelled "a" .win (some 1.0),
  .labelled "b" .loss (some (-2.0)),
  .labelled "c" .unknown none]

def labelledAgainstSign : List Outcome := [
  .labelled "a" .loss (some 1.0),
  .labelled "d" .win none,
  .labelled "b" .unknown (some (-2.0))]

theorem readings_kept_apart_of_mixed :
    let relabelled : List Outcome :=
      [.labelled "a" .win none, .labelled "b" .loss (some 3.0), .labelled "c" .unknown (some 1.0)]
    let accompanied : List Outcome :=
      [.labelled "c" .unknown (some 3.0), .labelled "a" .win (some 1.0),
        .labelled "b" .loss (some (-2.0))]
    (labelledBySign.filterMap (·.rMultiple)).map (·.value) =
        (labelledAgainstSign.filterMap (·.rMultiple)).map (·.value) ∧
      (CorpusMetrics.ofOutcomes .standard labelledBySign).SignsAlike
        (.ofOutcomes .standard labelledAgainstSign) ∧
      labelledMultiples labelledBySign = labelledMultiples accompanied ∧
      SummariesAlike labelledBySign accompanied ∧
      labelledBySign.map (·.label) = relabelled.map (·.label) ∧
      (CorpusMetrics.ofOutcomes .standard labelledBySign).TradesAlike
        (.ofOutcomes .standard relabelled) := by
  intro relabelled accompanied
  have multiples : (labelledBySign.filterMap (·.rMultiple)).map (·.value) =
      (labelledAgainstSign.filterMap (·.rMultiple)).map (·.value) := by decide
  have summaries : labelledMultiples labelledBySign = labelledMultiples accompanied := by decide
  have labels : labelledBySign.map (·.label) = relabelled.map (·.label) := by decide
  exact ⟨multiples, (readings_kept_apart _ _).1 multiples .standard,
    summaries, (readings_kept_apart _ _).2.1 summaries,
    labels, (readings_kept_apart _ _).2.2 labels .standard .standard⟩

end Metrics

end SignalReplay
