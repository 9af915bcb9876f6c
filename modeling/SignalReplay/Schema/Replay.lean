import SignalReplay.Replay.Basic
import SignalReplay.Schema.Outcome
import SignalReplay.Schema.Report

/-!
Replays as JSON. Outcomes are not part of it, and neither the version nor the counts are checked
against the rest.
-/

namespace SignalReplay.Replay

def fields : List String :=
  ["schema_version", "dataset_hash", "tie_break", "candle_count", "signal_count", "overall",
    "groups"]

def toJson (replay : Replay) : Json.Value :=
  .object [
    ("schema_version", .count replay.version),
    ("dataset_hash", .string replay.fingerprint),
    ("tie_break", replay.tieBreak.toJson),
    ("candle_count", .count replay.candleCount),
    ("signal_count", .count replay.signalCount),
    ("overall", replay.report.overall.toJson),
    ("groups", .array (replay.report.groups.map GroupRow.toJson))]

def versionBound : Nat := 0x100000000

def reader : Json.Reader Replay :=
  fun node => do
    let record ← Json.Record.read? fields node
    return {
      version := ← record.orDefault "schema_version" currentVersion (Json.Reader.below versionBound)
      fingerprint := ← record.required "dataset_hash" Json.Reader.text
      tieBreak := ← record.required "tie_break" TieBreak.reader
      candleCount := ← record.required "candle_count" Json.Reader.count
      signalCount := ← record.required "signal_count" Json.Reader.count
      report := {
        overall := ← record.required "overall" CorpusMetrics.reader
        groups := ← record.required "groups" (Json.Reader.list GroupRow.reader) }
      outcomes := [] }

end SignalReplay.Replay
