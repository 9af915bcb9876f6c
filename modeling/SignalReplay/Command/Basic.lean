import SignalReplay.Replay.Artifacts
import SignalReplay.Replay.Files

/-!
Commands: what a user can ask for, and why it may fail.
-/

namespace SignalReplay

structure TagOptions where
  candles : String
  signals : String
  pattern : String := Timestamp.standardPattern
  tieBreak : String := TieBreak.loss.text
  /-- Where the outcomes go; they are printed if it is not given. -/
  out : Option String := none
deriving DecidableEq, Repr

/-- Replay as a configuration says and save the artifacts. What is given here goes before what the
configuration says. -/
structure ReportOptions where
  configuration : Option String := none
  candles : Option String := none
  signals : Option String := none
  directory : Option String := none
deriving DecidableEq, Repr

inductive Command
  | tag (options : TagOptions)
  | report (options : ReportOptions)
deriving DecidableEq, Repr

inductive CommandError
  | tieBreak (error : TieBreakError)
  | candles (path : String) (error : LoadError)
  | signals (path : String) (error : LoadError)
  | notWritten (path : String)
  | configuration (error : ConfigurationError)
  | replay (error : ReplayError)
  | artifacts (error : ArtifactError)

def CommandError.message : CommandError → String
  | .tieBreak error => error.message
  | .candles path _ => s!"failed to load candles from {path}"
  | .signals path _ => s!"failed to load signals from {path}"
  | .notWritten path => s!"failed to write {path}"
  | .configuration error => error.message
  | .replay error => error.message
  | .artifacts error => error.message

end SignalReplay
