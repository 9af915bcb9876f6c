import SignalReplay.Decimal.Quantity
import SignalReplay.Time.Instant

/-!
Outcomes: how the replay of a signal ended.
-/

namespace SignalReplay

inductive OutcomeLabel
  | win
  | loss
  | breakEven
  | unknown
deriving DecidableEq, Repr

namespace OutcomeLabel

def text : OutcomeLabel → String
  | .win => "WIN"
  | .loss => "LOSS"
  | .breakEven => "BE"
  | .unknown => "UNKNOWN"

def isResolved : OutcomeLabel → Bool
  | .unknown => false
  | _ => true

end OutcomeLabel

structure Outcome where
  signalId : String
  label : OutcomeLabel
  rMultiple : Option Quantity
  /-- The greatest move against the trade. -/
  adverse : Option Float
  /-- The greatest move in favour of the trade. -/
  favourable : Option Float
  exitPrice : Option Float
  exitTime : Option Instant
deriving DecidableEq

/-- An outcome whose label is resolved and whose R-multiple is known. -/
def Outcome.isEvaluable (outcome : Outcome) : Bool :=
  outcome.label.isResolved && outcome.rMultiple.isSome

end SignalReplay
