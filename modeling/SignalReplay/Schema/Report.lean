import SignalReplay.Metrics.Summary
import SignalReplay.Report.Groups
import SignalReplay.Schema.Market

/-!
Figures and grouped reports as JSON.
-/

namespace SignalReplay

namespace HistogramEdges

def fields : List String :=
  ["negative", "positive"]

def toJson (edges : HistogramEdges) : Json.Value :=
  .object [
    ("negative", .array (edges.negative.map .real)),
    ("positive", .array (edges.positive.map .real))]

def reader : Json.Reader HistogramEdges :=
  fun node => do
    let record ← Json.Record.read? fields node
    return {
      negative := ← record.required "negative" (Json.Reader.list Json.Reader.real)
      positive := ← record.required "positive" (Json.Reader.list Json.Reader.real) }

end HistogramEdges

namespace Bucket

def fields : List String :=
  ["label", "count"]

def toJson (bucket : Bucket) : Json.Value :=
  .object [("label", .string bucket.label), ("count", .count bucket.count)]

def reader : Json.Reader Bucket :=
  fun node => do
    let record ← Json.Record.read? fields node
    return {
      label := ← record.required "label" Json.Reader.text
      count := ← record.required "count" Json.Reader.count }

end Bucket

namespace GroupSummary

def fields : List String :=
  ["count", "expectancy", "win_rate", "be_rate"]

def toJson (summary : GroupSummary) : Json.Value :=
  .object [
    ("count", .count summary.count),
    ("expectancy", .real summary.expectancy),
    ("win_rate", .real summary.winRate),
    ("be_rate", .real summary.breakEvenRate)]

def reader : Json.Reader GroupSummary :=
  fun node => do
    let record ← Json.Record.read? fields node
    return {
      count := ← record.required "count" Json.Reader.count
      expectancy := ← record.required "expectancy" Json.Reader.real
      winRate := ← record.required "win_rate" Json.Reader.real
      breakEvenRate := ← record.required "be_rate" Json.Reader.real }

end GroupSummary

namespace CorpusMetrics

def fields : List String :=
  ["sample_size", "completed_trades", "unknown", "wins", "losses", "break_even", "win_rate",
    "loss_rate", "break_even_rate", "expectancy", "profit_factor", "average_r", "max_r", "min_r",
    "max_drawdown_r", "max_win_streak", "max_loss_streak", "average_mae", "average_mfe",
    "r_histogram"]

def toJson (metrics : CorpusMetrics) : Json.Value :=
  .object [
    ("sample_size", .count metrics.sampleSize),
    ("completed_trades", .count metrics.completed),
    ("unknown", .count metrics.unknown),
    ("wins", .count metrics.wins),
    ("losses", .count metrics.losses),
    ("break_even", .count metrics.breakEven),
    ("win_rate", .real metrics.winRate),
    ("loss_rate", .real metrics.lossRate),
    ("break_even_rate", .real metrics.breakEvenRate),
    ("expectancy", .real metrics.expectancy.value),
    ("profit_factor", .real metrics.profitFactor),
    ("average_r", .real metrics.averageR),
    ("max_r", .optional .real metrics.maxR),
    ("min_r", .optional .real metrics.minR),
    ("max_drawdown_r", .real metrics.maxDrawdown),
    ("max_win_streak", .count metrics.maxWinStreak),
    ("max_loss_streak", .count metrics.maxLossStreak),
    ("average_mae", .optional .real metrics.averageAdverse),
    ("average_mfe", .optional .real metrics.averageFavourable),
    ("r_histogram", .array (metrics.histogram.map Bucket.toJson))]

def reader : Json.Reader CorpusMetrics :=
  fun node => do
    let record ← Json.Record.read? fields node
    return {
      sampleSize := ← record.required "sample_size" Json.Reader.count
      completed := ← record.required "completed_trades" Json.Reader.count
      unknown := ← record.required "unknown" Json.Reader.count
      wins := ← record.required "wins" Json.Reader.count
      losses := ← record.required "losses" Json.Reader.count
      breakEven := ← record.required "break_even" Json.Reader.count
      winRate := ← record.required "win_rate" Json.Reader.real
      lossRate := ← record.required "loss_rate" Json.Reader.real
      breakEvenRate := ← record.required "break_even_rate" Json.Reader.real
      expectancy := ← record.required "expectancy" Json.Reader.quantity
      profitFactor := ← record.required "profit_factor" Json.Reader.real
      averageR := ← record.required "average_r" Json.Reader.real
      maxR := ← record.nullable "max_r" Json.Reader.real
      minR := ← record.nullable "min_r" Json.Reader.real
      maxDrawdown := ← record.required "max_drawdown_r" Json.Reader.real
      maxWinStreak := ← record.required "max_win_streak" Json.Reader.count
      maxLossStreak := ← record.required "max_loss_streak" Json.Reader.count
      averageAdverse := ← record.nullable "average_mae" Json.Reader.real
      averageFavourable := ← record.nullable "average_mfe" Json.Reader.real
      histogram := ← record.required "r_histogram" (Json.Reader.list Bucket.reader) }

end CorpusMetrics

namespace GroupKey

def fields : List String :=
  ["symbol", "timeframe", "session", "signal_type", "direction"]

def toJson (key : GroupKey) : Json.Value :=
  .object [
    ("symbol", .string key.symbol),
    ("timeframe", .string key.timeframe),
    ("session", .optional .string key.session),
    ("signal_type", .optional .string key.kind),
    ("direction", key.direction.toJson)]

def reader : Json.Reader GroupKey :=
  fun node => do
    let record ← Json.Record.read? fields node
    return {
      symbol := ← record.required "symbol" Json.Reader.text
      timeframe := ← record.required "timeframe" Json.Reader.text
      session := ← record.nullable "session" Json.Reader.text
      kind := ← record.nullable "signal_type" Json.Reader.text
      direction := ← record.required "direction" Direction.reader }

end GroupKey

namespace GroupRow

def fields : List String :=
  ["key", "metrics"]

def toJson (row : GroupRow) : Json.Value :=
  .object [("key", row.key.toJson), ("metrics", row.metrics.toJson)]

def reader : Json.Reader GroupRow :=
  fun node => do
    let record ← Json.Record.read? fields node
    return {
      key := ← record.required "key" GroupKey.reader
      metrics := ← record.required "metrics" CorpusMetrics.reader }

end GroupRow

namespace GroupedReport

def fields : List String :=
  ["overall", "groups"]

def toJson (report : GroupedReport) : Json.Value :=
  .object [
    ("overall", report.overall.toJson),
    ("groups", .array (report.groups.map GroupRow.toJson))]

def reader : Json.Reader GroupedReport :=
  fun node => do
    let record ← Json.Record.read? fields node
    return {
      overall := ← record.required "overall" CorpusMetrics.reader
      groups := ← record.required "groups" (Json.Reader.list GroupRow.reader) }

end GroupedReport

end SignalReplay
