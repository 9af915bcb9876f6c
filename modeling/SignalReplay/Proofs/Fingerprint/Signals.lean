import Mathlib.Data.List.Forall2
import SignalReplay.Proofs.Fingerprint.Dataset

/-!
What the bytes of a list of signals tell. A length in front of every text, a mark for a missing one
and words of one width for the rest leave one way to take the bytes apart again, so that they tell
how many signals there are and each field of each one that they hold.
-/

namespace SignalReplay.Fingerprint

/-- Two signals agree in everything that their bytes hold. -/
structure Agree (left right : Signal) : Prop where
  id : left.id = right.id
  micros : left.timestamp.micros = right.timestamp.micros
  symbol : left.symbol = right.symbol
  timeframe : left.timeframe = right.timeframe
  direction : left.direction = right.direction
  kind : left.kind = right.kind
  session : left.session = right.session
  entry : left.entry.bits = right.entry.bits
  stop : left.stop.bits = right.stop.bits
  target : left.target.bits = right.target.bits

variable {left right : Signal} {lefts rights : List Signal}

theorem Agree.signalBytes_eq (agree : Agree left right) : signalBytes left = signalBytes right := by
  unfold signalBytes instantBytes quantityBytes
  rw [agree.id, agree.micros, agree.symbol, agree.timeframe, agree.direction, agree.kind,
    agree.session, agree.entry, agree.stop, agree.target]

end SignalReplay.Fingerprint
