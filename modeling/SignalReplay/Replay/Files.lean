import SignalReplay.Files.Loading
import SignalReplay.Replay.Basic

/-!
Replays of the files that a configuration names. Everything about the configuration is checked
before the first file is read.
-/

namespace SignalReplay.Replay

variable {m : Type → Type} [Monad m] [FileStore m]

def ofFiles (pools : ThreadPools) (configuration : Configuration) :
    ExceptT ReplayError m Replay := do
  let check : Except ConfigurationError (String × String) := do
    configuration.check
    configuration.inputPaths
  let (candles, signals) ← liftExcept (check.mapError ReplayError.configuration)
  let pattern := configuration.data.pattern
  let series ← (loadCandles (m := m) pattern candles).adapt .data
  let signals ← (loadSignals (m := m) pattern signals).adapt .data
  liftExcept (run pools configuration series signals)

end SignalReplay.Replay
