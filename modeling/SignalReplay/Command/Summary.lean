import SignalReplay.Replay.Markdown

/-!
The summary of a replay that is printed after its artifacts are saved.
-/

namespace SignalReplay.Summary

def padding (width : Nat) (text : String) : String :=
  String.ofList (List.replicate (width - text.length) ' ')

def padRight (width : Nat) (text : String) : String :=
  text ++ padding width text

def padLeft (width : Nat) (text : String) : String :=
  padding width text ++ text

def entry (label figure : String) : String :=
  padRight 17 (label ++ ":") ++ figure

def shownGroups : Nat := 5

def groupLine (row : GroupRow) : String :=
  padRight 40 row.key.toText ++ " N=" ++ padRight 5 (toString row.metrics.sampleSize) ++
    " exp=" ++ padLeft 8 (figureText row.metrics.expectancy.value) ++ "R win=" ++
    padLeft 5 (percentText row.metrics.winRate) ++ "%"

def lines (replay : Replay) : List String :=
  let metrics := replay.report.overall
  [ "",
    "=== Replay Result ===",
    entry "Candles" (toString replay.candleCount),
    entry "Signals" (toString replay.signalCount),
    entry "Tie-break" replay.tieBreak.text,
    entry "Dataset Hash" replay.fingerprint,
    "",
    "--- Outcomes ---",
    entry "Completed" (toString metrics.completed),
    entry "Unknown" (toString metrics.unknown),
    entry "W / L / BE" metrics.tally,
    entry "Win Rate" (percentText metrics.winRate ++ "%"),
    entry "Expectancy" (figureText metrics.expectancy.value ++ "R"),
    entry "Profit Factor" (Decimal.fixed 2 metrics.profitFactor),
    entry "Max Drawdown" (figureText metrics.maxDrawdown ++ "R"),
    entry "Max Win Streak" (toString metrics.maxWinStreak),
    entry "Max Loss Streak" (toString metrics.maxLossStreak),
    "",
    "--- Top Groups ---"] ++
    (replay.report.groups.take shownGroups).map groupLine

def text (replay : Replay) (directory : String) : String :=
  "".intercalate ((lines replay ++ ["", s!"Artifacts saved to: {directory}"]).map (· ++ "\n"))

end SignalReplay.Summary
