import SignalReplay.Metrics.Histogram
import SignalReplay.Tagging

/-!
All figures about one list of outcomes.
-/

namespace SignalReplay

/-- Figures about outcomes. Gains, losses and their rates go by sign; completed and unknown trades
and the expectancy go by label. -/
structure CorpusMetrics where
  sampleSize : Nat
  /-- Outcomes labelled as a win or a loss. -/
  completed : Nat
  unknown : Nat
  wins : Nat
  losses : Nat
  breakEven : Nat
  winRate : Float
  lossRate : Float
  breakEvenRate : Float
  expectancy : Quantity
  profitFactor : Float
  averageR : Float
  maxR : Option Float
  minR : Option Float
  maxDrawdown : Float
  maxWinStreak : Nat
  maxLossStreak : Nat
  averageAdverse : Option Float
  averageFavourable : Option Float
  histogram : List Bucket

/-- The lesser of two numbers. Where one is missing it is the other. -/
def lesser (left right : Float) : Float :=
  if left.isNaN then right
  else if right.isNaN then left
  else if right < left then right
  else left

def combine? (combine : α → α → α) : List α → Option α
  | [] => none
  | first :: rest => some (rest.foldl combine first)

namespace CorpusMetrics

def ofOutcomes (edges : HistogramEdges) (outcomes : List Outcome) : CorpusMetrics :=
  let multiples := Metrics.rMultiples outcomes
  let wins := multiples.countP fun r => 0 < r
  let losses := multiples.countP fun r => r < 0
  let breakEven := multiples.countP fun r => r == 0
  { sampleSize := outcomes.length
    completed := outcomes.countP fun outcome => outcome.label = .win || outcome.label = .loss
    unknown := outcomes.countP fun outcome => outcome.label = .unknown
    wins, losses, breakEven
    winRate := Metrics.rate wins multiples.length
    lossRate := Metrics.rate losses multiples.length
    breakEvenRate := Metrics.rate breakEven multiples.length
    expectancy := Metrics.expectancy outcomes
    profitFactor := Metrics.profitFactor outcomes
    averageR := Metrics.mean multiples
    maxR := combine? greater multiples
    minR := combine? lesser multiples
    maxDrawdown := Metrics.maxDrawdown outcomes
    maxWinStreak := Metrics.maxWinStreak outcomes
    maxLossStreak := Metrics.maxLossStreak outcomes
    averageAdverse := Metrics.averageAdverse outcomes
    averageFavourable := Metrics.averageFavourable outcomes
    histogram := Metrics.histogram edges outcomes }

def rounded (metrics : CorpusMetrics) (decimals : UInt32) : CorpusMetrics :=
  let round (value : Float) := Decimal.roundTo value decimals
  { metrics with
    winRate := round metrics.winRate
    lossRate := round metrics.lossRate
    breakEvenRate := round metrics.breakEvenRate
    expectancy := .ofFloat (round metrics.expectancy.value)
    profitFactor := round metrics.profitFactor
    averageR := round metrics.averageR
    maxR := metrics.maxR.map round
    minR := metrics.minR.map round
    maxDrawdown := round metrics.maxDrawdown
    averageAdverse := metrics.averageAdverse.map round
    averageFavourable := metrics.averageFavourable.map round }

end CorpusMetrics

end SignalReplay
