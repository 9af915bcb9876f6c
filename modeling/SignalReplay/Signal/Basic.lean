import SignalReplay.Decimal.Quantity
import SignalReplay.Json.Value
import SignalReplay.Signal.Direction
import SignalReplay.Time.Instant

/-!
Signals: trade ideas with an entry price, a stop and a target.
-/

namespace SignalReplay

structure Signal where
  id : String
  timestamp : Instant
  symbol : String
  timeframe : String
  direction : Direction
  /-- The kind of setup that gave the signal. -/
  kind : Option String
  entry : Quantity
  stop : Quantity
  target : Quantity
  session : Option String
  /-- Whatever else the source says about the signal. -/
  notes : List (String × Json.Value)

namespace Signal

def stopDistance (signal : Signal) : Quantity :=
  match signal.direction with
  | .long => signal.entry - signal.stop
  | .short => signal.stop - signal.entry

def reward (signal : Signal) : Quantity :=
  match signal.direction with
  | .long => signal.target - signal.entry
  | .short => signal.entry - signal.target

/-- The distance that counts as one unit of risk. A stop at the entry or on the wrong side of it
counts as a distance of 1. -/
def risk (signal : Signal) : Quantity :=
  if signal.stopDistance.value ≤ 0 then .ofFloat 1.0 else signal.stopDistance

def hasValidRisk (signal : Signal) : Bool :=
  0 < signal.stopDistance.value

def notLater (left right : Signal) : Bool :=
  left.timestamp.le right.timestamp

end Signal

end SignalReplay
