import SignalReplay.Configuration.Basic
import SignalReplay.Fingerprint.Dataset
import SignalReplay.LoadError
import SignalReplay.Report.Groups

/-!
Replays: the outcomes of a list of signals over a candle series, the figures about them and what
is needed to tell two replays apart.
-/

namespace SignalReplay

structure Replay where
  /-- The version of the form in which the replay is kept. -/
  version : Nat
  fingerprint : String
  tieBreak : TieBreak
  candleCount : Nat
  signalCount : Nat
  report : GroupedReport
  outcomes : List Outcome

structure PoolFault where
  reason : String
deriving DecidableEq, Repr

/-- What a machine answers when a pool with a number of threads is to be built. -/
structure ThreadPools where
  build : Nat → Except PoolFault Unit

namespace ThreadPools

def unlimited : ThreadPools where
  build _ := .ok ()

/-- The pool for a number of threads. With zero none is built, as the one that every process has is
used. -/
def provide (pools : ThreadPools) (threads : Nat) : Except PoolFault Unit :=
  if threads = 0 then .ok () else pools.build threads

end ThreadPools

inductive ReplayError
  | configuration (error : ConfigurationError)
  | data (error : LoadError)
  | threadPool (fault : PoolFault)

def ReplayError.message : ReplayError → String
  | .configuration error => s!"config error: {error.message}"
  | .data error => s!"data error: {error.message}"
  | .threadPool fault => s!"failed to build tagging thread pool: {fault.reason}"

namespace Replay

def currentVersion : Nat := 1

/-- Replay signals over a series. Outcomes are in the order of the signals, and for the report
they are joined to the signals by identifier. -/
def ofData (series : CandleSeries) (signals : List Signal) (tieBreak : TieBreak)
    (edges : HistogramEdges) : Replay :=
  let outcomes := tagAll signals series tieBreak
  { version := currentVersion
    fingerprint := Fingerprint.ofDataset series signals
    tieBreak
    candleCount := series.size
    signalCount := signals.length
    report := .ofPairs edges (pairOutcomes signals outcomes)
    outcomes }

/-- Replay as a configuration says. Whether the pool for its threads can be built decides whether
the signals are replayed, and not what comes of it. -/
def run (pools : ThreadPools) (configuration : Configuration) (series : CandleSeries)
    (signals : List Signal) : Except ReplayError Replay := do
  let tieBreak ← configuration.tieBreak.mapError .configuration
  let edges ← configuration.edges.mapError .configuration
  (pools.provide configuration.tagging.threads).mapError .threadPool
  return ofData series signals tieBreak edges

def rounded (replay : Replay) (decimals : UInt32) : Replay :=
  { replay with report := replay.report.rounded decimals }

end Replay

end SignalReplay
