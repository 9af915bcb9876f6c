import SignalReplay.Command.Basic
import SignalReplay.Command.Summary

/-!
Running commands on a file store. A command gives the text to print, or the first error that
stops it; files that were written before the error stay.
-/

namespace SignalReplay

variable {m : Type → Type} [Monad m] [FileStore m]

namespace TagOptions

def outcomes (options : TagOptions) : ExceptT CommandError m (List Outcome) := do
  let tieBreak ← liftExcept ((TieBreak.read options.tieBreak).mapError CommandError.tieBreak)
  let series ← (loadCandles (m := m) options.pattern options.candles).adapt
    (.candles options.candles)
  let signals ← (loadSignals (m := m) options.pattern options.signals).adapt
    (.signals options.signals)
  return tagAll signals series tieBreak

def run (options : TagOptions) : ExceptT CommandError m String := do
  let text := OutcomeLines.write (← options.outcomes)
  match options.out with
  | none => return text
  | some path =>
    match ← FileStore.write (m := m) path (Utf8.encode text) with
    | .ok () => return ""
    | .error _ => throw (.notWritten path)

end TagOptions

namespace ReportOptions

def completed (options : ReportOptions) : ExceptT CommandError m Configuration := do
  let configuration ←
    match options.configuration with
    | none => pure {}
    | some path => (loadConfiguration (m := m) path).adapt .configuration
  return { configuration with
    data.candles := options.candles <|> configuration.data.candles
    data.signals := options.signals <|> configuration.data.signals
    report.directory := options.directory.getD configuration.report.directory }

def run (pools : ThreadPools) (options : ReportOptions) : ExceptT CommandError m String := do
  let configuration ← options.completed
  let replay ← (Replay.ofFiles (m := m) pools configuration).adapt .replay
  let directory := configuration.report.directory
  (Artifacts.save (m := m) replay directory).adapt .artifacts
  return Summary.text replay directory

end ReportOptions

namespace Command

def run (pools : ThreadPools) : Command → ExceptT CommandError m String
  | .tag options => options.run
  | .report options => options.run pools

end Command

end SignalReplay
