import SignalReplay.Configuration.Toml
import SignalReplay.Files.Store
import SignalReplay.Market.CandleTable
import SignalReplay.Signal.Lines

/-!
Loading candles, signals and configurations from files. A file that is not there is told apart
from one that cannot be read.
-/

namespace SignalReplay

variable {m : Type → Type} [Monad m] [FileStore m]

def loadCandles (pattern path : String) : ExceptT LoadError m CandleSeries := do
  match ← FileStore.read (m := m) path with
  | .ok bytes => liftExcept (CandleTable.read pattern path bytes)
  | .error fault =>
    throw (if fault.isAbsent then .notFound path else .unreadableTable fault)

def loadSignals (pattern path : String) : ExceptT LoadError m (List Signal) := do
  match ← FileStore.read (m := m) path with
  | .ok bytes => liftExcept (SignalLines.read pattern path bytes)
  | .error fault => throw (if fault.isAbsent then .notFound path else .unreadable fault)

def loadConfiguration (path : String) : ExceptT ConfigurationError m Configuration := do
  match ← FileStore.read (m := m) path with
  | .error fault => throw (.unreadable path fault)
  | .ok bytes =>
    match Utf8.decode bytes with
    | .error _ => throw (.unreadable path .notText)
    | .ok text => liftExcept (Configuration.ofToml text)

end SignalReplay
