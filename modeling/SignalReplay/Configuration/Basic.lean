import SignalReplay.Files.Fault
import SignalReplay.Metrics.Histogram
import SignalReplay.Tagging
import SignalReplay.Time.Timestamp

/-!
Configurations of a replay. Every setting has a standard value, so the empty configuration is
valid; only the paths of the inputs have none.
-/

namespace SignalReplay

structure DataSettings where
  candles : Option String := none
  signals : Option String := none
  pattern : String := Timestamp.standardPattern
deriving DecidableEq, Repr

structure TaggingSettings where
  /-- Kept as it was written, so that a wrong rule is reported when it is needed. -/
  tieBreak : String := TieBreak.loss.text
  /-- How many threads the pool has in which signals are replayed; with zero none is built for it. -/
  threads : Nat := 0
deriving DecidableEq, Repr

structure ReportSettings where
  directory : String := "reports"
  negativeEdges : List Float := HistogramEdges.standard.negative
  positiveEdges : List Float := HistogramEdges.standard.positive
deriving DecidableEq

structure Configuration where
  data : DataSettings := {}
  tagging : TaggingSettings := {}
  report : ReportSettings := {}
deriving DecidableEq

inductive InputFile
  | candles
  | signals
deriving DecidableEq, Repr

def InputFile.text : InputFile → String
  | .candles => "candles"
  | .signals => "signals"

inductive ConfigurationError
  | tieBreak (error : TieBreakError)
  | edges (error : EdgesError)
  | missingPath (input : InputFile)
  | notToml
  | unreadable (path : String) (fault : FileFault)

def ConfigurationError.message : ConfigurationError → String
  | .tieBreak error => error.message
  | .edges error => s!"invalid histogram edges: {error.message}"
  | .missingPath input =>
    s!"missing {input.text} path (set it in the config or on the command line)"
  | .notToml => "invalid config TOML"
  | .unreadable path fault => s!"failed to read config {path}: {fault.message}"

namespace Configuration

def tieBreak (configuration : Configuration) : Except ConfigurationError TieBreak :=
  (TieBreak.read configuration.tagging.tieBreak).mapError .tieBreak

def edges (configuration : Configuration) : Except ConfigurationError HistogramEdges :=
  let edges : HistogramEdges :=
    ⟨configuration.report.negativeEdges, configuration.report.positiveEdges⟩
  match edges.check with
  | .ok () => .ok edges
  | .error error => .error (.edges error)

/-- Whether tie-break and edges can be used. The paths may still be missing. -/
def check (configuration : Configuration) : Except ConfigurationError Unit := do
  discard configuration.tieBreak
  discard configuration.edges

def inputPaths (configuration : Configuration) : Except ConfigurationError (String × String) :=
  match configuration.data.candles, configuration.data.signals with
  | some candles, some signals => .ok (candles, signals)
  | some _, none => .error (.missingPath .signals)
  | none, _ => .error (.missingPath .candles)

end Configuration

end SignalReplay
