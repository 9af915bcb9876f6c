import SignalReplay.Decimal.Quantity
import SignalReplay.Time.Instant

/-!
Candles: what a price did in one interval of time.
-/

namespace SignalReplay

/-- A candle at an instant. Two candles may share an instant. -/
structure Candle where
  timestamp : Instant
  opening : Quantity
  high : Quantity
  low : Quantity
  closing : Quantity
  /-- Missing where the table has no volume. -/
  volume : Option Quantity
deriving DecidableEq

end SignalReplay
