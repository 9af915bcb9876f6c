import SignalReplay.Market.Candle

/-!
Candle series: candles in the order of their timestamps. The candles after an instant are found
by halving the series.
-/

namespace SignalReplay

def Candle.notLater (left right : Candle) : Bool :=
  left.timestamp.le right.timestamp

structure CandleSeries where
  candles : Array Candle
  ordered : candles.toList.Pairwise fun left right => left.notLater right = true

namespace CandleSeries

/-- Put candles in order. Candles that share a timestamp keep their order. -/
def ofList (candles : List Candle) : CandleSeries where
  candles := (candles.mergeSort Candle.notLater).toArray
  ordered := List.pairwise_mergeSort
    (fun left middle right => Instant.le_trans left.timestamp middle.timestamp right.timestamp)
    (fun left right => Instant.le_total left.timestamp right.timestamp) candles

def toList (series : CandleSeries) : List Candle :=
  series.candles.toList

def size (series : CandleSeries) : Nat :=
  series.candles.size

/-- Where the candles after an instant begin, known to lie between `low` and `high`. -/
def searchAfter (candles : Array Candle) (instant : Instant) (low high : Nat)
    (bounded : high ≤ candles.size) : Nat :=
  if unfinished : low < high then
    let middle := (low + high) / 2
    if candles[middle].timestamp.le instant then
      searchAfter candles instant (middle + 1) high bounded
    else
      searchAfter candles instant low middle (by omega)
  else low
termination_by high - low

def after (series : CandleSeries) (instant : Instant) : List Candle :=
  series.toList.drop
    (searchAfter series.candles instant 0 series.candles.size (Nat.le_refl _))

end CandleSeries

end SignalReplay
