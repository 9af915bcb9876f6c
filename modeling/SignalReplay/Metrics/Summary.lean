import SignalReplay.Metrics.Basic
import SignalReplay.Partition

/-!
Short summaries by label, for outcomes that are grouped by any key.
-/

namespace SignalReplay

structure GroupSummary where
  /-- Evaluable outcomes. -/
  count : Nat
  expectancy : Float
  winRate : Float
  breakEvenRate : Float

namespace GroupSummary

def ofOutcomes (outcomes : List Outcome) : GroupSummary where
  count := outcomes.countP (·.isEvaluable)
  expectancy := (Metrics.expectancy outcomes).value
  winRate := Metrics.winRate outcomes
  breakEvenRate := Metrics.breakEvenRate outcomes

end GroupSummary

/-- A summary for each key that occurs, in rising order of the keys. -/
def summarize [Ord κ] (keyOf : Outcome → κ) (outcomes : List Outcome) :
    List (κ × GroupSummary) :=
  (Partition.classes keyOf outcomes).map fun (key, members) =>
    (key, .ofOutcomes members)

end SignalReplay
