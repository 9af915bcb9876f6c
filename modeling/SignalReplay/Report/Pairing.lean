import Std.Data.HashMap
import SignalReplay.Outcome.Basic
import SignalReplay.Signal.Basic

/-!
Pairs of an outcome and the signal it belongs to. The signal is found by its identifier; of
signals that share one the first counts, and an outcome whose identifier no signal has is left
out.
-/

namespace SignalReplay

structure TaggedSignal where
  signal : Signal
  outcome : Outcome

namespace TaggedSignal

def notLater (left right : TaggedSignal) : Bool :=
  left.signal.notLater right.signal

end TaggedSignal

/-- The first signal for each identifier. -/
abbrev SignalIndex := Std.HashMap String Signal

def SignalIndex.ofList (signals : List Signal) : SignalIndex :=
  signals.foldl (fun index signal => index.insertIfNew signal.id signal) ∅

def pairOutcomes (signals : List Signal) (outcomes : List Outcome) : List TaggedSignal :=
  let index := SignalIndex.ofList signals
  outcomes.filterMap fun outcome =>
    (index.get? outcome.signalId).map fun signal => ⟨signal, outcome⟩

end SignalReplay
