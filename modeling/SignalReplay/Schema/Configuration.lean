import SignalReplay.Configuration.Basic
import SignalReplay.Json.Record

/-!
Configurations as JSON. Every setting that is left out has its standard value.
-/

namespace SignalReplay

namespace DataSettings

def fields : List String :=
  ["candles", "signals", "timestamp_format"]

def toJson (settings : DataSettings) : Json.Value :=
  .object [
    ("candles", .optional .string settings.candles),
    ("signals", .optional .string settings.signals),
    ("timestamp_format", .string settings.pattern)]

def reader : Json.Reader DataSettings :=
  fun node => do
    let record ← Json.Record.read? fields node
    let standard : DataSettings := {}
    let path := Json.Reader.orNull Json.Reader.text
    return {
      candles := ← record.orDefault "candles" standard.candles path
      signals := ← record.orDefault "signals" standard.signals path
      pattern := ← record.orDefault "timestamp_format" standard.pattern Json.Reader.text }

end DataSettings

namespace TaggingSettings

def fields : List String :=
  ["tie_break", "threads"]

def toJson (settings : TaggingSettings) : Json.Value :=
  .object [("tie_break", .string settings.tieBreak), ("threads", .count settings.threads)]

def reader : Json.Reader TaggingSettings :=
  fun node => do
    let record ← Json.Record.read? fields node
    let standard : TaggingSettings := {}
    return {
      tieBreak := ← record.orDefault "tie_break" standard.tieBreak Json.Reader.text
      threads := ← record.orDefault "threads" standard.threads Json.Reader.count }

end TaggingSettings

namespace ReportSettings

def fields : List String :=
  ["output_dir", "histogram_negative_edges", "histogram_positive_edges"]

def toJson (settings : ReportSettings) : Json.Value :=
  .object [
    ("output_dir", .string settings.directory),
    ("histogram_negative_edges", .array (settings.negativeEdges.map .real)),
    ("histogram_positive_edges", .array (settings.positiveEdges.map .real))]

def reader : Json.Reader ReportSettings :=
  fun node => do
    let record ← Json.Record.read? fields node
    let standard : ReportSettings := {}
    let edges := Json.Reader.list Json.Reader.real
    return {
      directory := ← record.orDefault "output_dir" standard.directory Json.Reader.text
      negativeEdges :=
        ← record.orDefault "histogram_negative_edges" standard.negativeEdges edges
      positiveEdges :=
        ← record.orDefault "histogram_positive_edges" standard.positiveEdges edges }

end ReportSettings

namespace Configuration

def fields : List String :=
  ["data", "tagging", "report"]

def toJson (configuration : Configuration) : Json.Value :=
  .object [
    ("data", configuration.data.toJson),
    ("tagging", configuration.tagging.toJson),
    ("report", configuration.report.toJson)]

def reader : Json.Reader Configuration :=
  fun node => do
    let record ← Json.Record.read? fields node
    return {
      data := ← record.orDefault "data" {} DataSettings.reader
      tagging := ← record.orDefault "tagging" {} TaggingSettings.reader
      report := ← record.orDefault "report" {} ReportSettings.reader }

end Configuration

end SignalReplay
