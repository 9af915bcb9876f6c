import SignalReplay.Decimal.Fixed
import SignalReplay.Replay.Basic

/-!
Replays as Markdown: what was replayed, the figures of all outcomes, the histogram and one table
row for each group in the order of their rank.
-/

namespace SignalReplay

def percentText (part : Float) : String :=
  Decimal.fixed 1 (part * 100.0)

def figureText (value : Float) : String :=
  Decimal.fixed 4 value

def optionalFigureText (value : Option Float) : String :=
  (value.map figureText).getD "-"

namespace Markdown

def line (text : String) : String :=
  text ++ "\n"

def cells (texts : List String) : String :=
  "| " ++ " | ".intercalate texts ++ " |"

def table (headings alignments : List String) (rows : List (List String)) : String :=
  "".intercalate ((headings :: alignments :: rows).map fun row => line (cells row))

def heading (level : String) (text : String) : String :=
  line (level ++ " " ++ text) ++ "\n"

def left : String := "---"

def right : String := "---:"

end Markdown

namespace Replay

def metadataRows (replay : Replay) : List (List String) := [
  ["Candles", toString replay.candleCount],
  ["Signals", toString replay.signalCount],
  ["Tie-break", replay.tieBreak.text],
  ["Dataset Hash", replay.fingerprint]]

end Replay

namespace CorpusMetrics

def tally (metrics : CorpusMetrics) : String :=
  s!"{metrics.wins} / {metrics.losses} / {metrics.breakEven}"

def figureRows (metrics : CorpusMetrics) : List (List String) := [
  ["Signals", toString metrics.sampleSize],
  ["Completed Trades", toString metrics.completed],
  ["Unknown", toString metrics.unknown],
  ["Wins / Losses / BE", metrics.tally],
  ["Win Rate", percentText metrics.winRate ++ "%"],
  ["Expectancy", figureText metrics.expectancy.value ++ "R"],
  ["Profit Factor", Decimal.fixed 2 metrics.profitFactor],
  ["Average R", figureText metrics.averageR],
  ["Best R", optionalFigureText metrics.maxR],
  ["Worst R", optionalFigureText metrics.minR],
  ["Max Drawdown", figureText metrics.maxDrawdown ++ "R"],
  ["Max Win Streak", toString metrics.maxWinStreak],
  ["Max Loss Streak", toString metrics.maxLossStreak],
  ["Average MAE", optionalFigureText metrics.averageAdverse],
  ["Average MFE", optionalFigureText metrics.averageFavourable]]

def histogramRows (metrics : CorpusMetrics) : List (List String) :=
  metrics.histogram.map fun bucket => [bucket.label, toString bucket.count]

end CorpusMetrics

namespace GroupRow

def headings : List String :=
  ["Symbol", "Timeframe", "Session", "Signal Type", "Direction", "N", "Trades", "Win%",
    "Expectancy", "Max DD", "Max Loss Streak"]

def alignments : List String :=
  List.replicate 5 Markdown.left ++ List.replicate 6 Markdown.right

def cells (row : GroupRow) : List String := [
  row.key.symbol,
  row.key.timeframe,
  GroupKey.shown row.key.session,
  GroupKey.shown row.key.kind,
  row.key.direction.text,
  toString row.metrics.sampleSize,
  toString row.metrics.completed,
  percentText row.metrics.winRate,
  figureText row.metrics.expectancy.value,
  figureText row.metrics.maxDrawdown,
  toString row.metrics.maxLossStreak]

end GroupRow

namespace Replay

def groupTable (groups : List GroupRow) : String :=
  if groups.isEmpty then Markdown.line "_No signals._"
  else Markdown.table GroupRow.headings GroupRow.alignments (groups.map GroupRow.cells)

def markdown (replay : Replay) : String :=
  let plain := [Markdown.left, Markdown.left]
  let metrics := replay.report.overall
  Markdown.heading "#" "Signal Replay Report" ++
    Markdown.heading "##" "Metadata" ++
    Markdown.table ["Field", "Value"] plain replay.metadataRows ++ "\n" ++
    Markdown.heading "##" "Overall" ++
    Markdown.table ["Metric", "Value"] plain metrics.figureRows ++ "\n" ++
    Markdown.heading "##" "R Distribution" ++
    Markdown.table ["Bucket", "Count"] [Markdown.left, Markdown.right] metrics.histogramRows ++
    "\n" ++
    Markdown.heading "##" "Groups" ++ groupTable replay.report.groups

end Replay

end SignalReplay
