import SignalReplay.Proofs.Files.Loading
import SignalReplay.Proofs.Market.CandleTable
import SignalReplay.Proofs.Replay.Run
import SignalReplay.Proofs.Signal.Lines

/-!
Replays of rearranged sources. Neither the order of the rows of a candle table nor that of the lines
of a signal file shows in a replay, as long as records of one timestamp keep their order and no
signal is named after its line.
-/

namespace SignalReplay

namespace Replay

/-! ## Replays of loaded sources -/

variable {pools : ThreadPools} {configuration : Configuration} {candles signals : String}

theorem finish_ofFiles_of_loads (paths : configuration.inputPaths = .ok (candles, signals))
    {tree : FileTree} {table lines : List UInt8} (tableHeld : tree.read candles = .ok table)
    (linesHeld : tree.read signals = .ok lines) {series : CandleSeries} {found : List Signal}
    (tableLoads : CandleTable.read configuration.data.pattern candles table = .ok series)
    (linesLoad : SignalLines.read configuration.data.pattern signals lines = .ok found) :
    finish (ofFiles pools configuration) tree =
      (do
        configuration.check.mapError ReplayError.configuration
        run pools configuration series found, tree) := by
  have candlesLoad : tree.seriesAt configuration.data.pattern candles = .ok series := by
    rw [FileTree.seriesAt, tableHeld]
    exact tableLoads
  have signalsLoad : tree.signalsAt configuration.data.pattern signals = .ok found := by
    rw [FileTree.signalsAt, linesHeld]
    exact linesLoad
  rw [finish_ofFiles paths, candlesLoad, signalsLoad]
  generalize configuration.check = checked
  cases checked <;> dsimp only [Except.mapError, bind, Except.bind]

theorem run_of_check (valid : configuration.check = .ok ())
    (served : pools.Serve configuration.tagging.threads) (series : CandleSeries)
    (found : List Signal) : ∃ replay, run pools configuration series found = .ok replay := by
  rcases settings_of_check valid with ⟨⟨tieBreak, tieBreakRead⟩, edges, edgesRead⟩
  exact ⟨_, run_eq tieBreakRead edgesRead served series found⟩

/-- Where rows and lines of one timestamp keep their order, sources that load can be rearranged:
they load as the same data, and the replay of files that hold them is the same. Signals may share
an identifier as long as every line gives one. -/
theorem ofFiles_of_isRearranged (paths : configuration.inputPaths = .ok (candles, signals))
    {table otherTable lines otherLines : List UInt8} {series : CandleSeries} {found : List Signal}
    (tableLoads : CandleTable.read configuration.data.pattern candles table = .ok series)
    (linesLoad : SignalLines.read configuration.data.pattern signals lines = .ok found)
    (named : ∀ line ∈ Text.lines lines, SignalLines.isNamed line)
    (tableRearranged : CandleTable.IsRearranged configuration.data.pattern table otherTable)
    (linesRearranged : SignalLines.IsRearranged configuration.data.pattern lines otherLines) :
    CandleTable.read configuration.data.pattern candles otherTable = .ok series ∧
      SignalLines.read configuration.data.pattern signals otherLines = .ok found ∧
      ∀ tree other : FileTree, tree.read candles = .ok table → tree.read signals = .ok lines →
        other.read candles = .ok otherTable → other.read signals = .ok otherLines →
        ∃ result, finish (ofFiles pools configuration) tree = (result, tree) ∧
          finish (ofFiles pools configuration) other = (result, other) ∧
          (configuration.check = .ok () →
            result = run pools configuration series found ∧
              (pools.Serve configuration.tagging.threads → ∃ replay, result = .ok replay)) := by
  have otherTableLoads := CandleTable.read_of_isRearranged tableLoads tableRearranged
  have otherLinesLoad := SignalLines.read_of_isRearranged linesLoad named linesRearranged
  refine ⟨otherTableLoads, otherLinesLoad, ?_⟩
  intro tree other tableHeld linesHeld otherTableHeld otherLinesHeld
  refine ⟨_, finish_ofFiles_of_loads paths tableHeld linesHeld tableLoads linesLoad,
    finish_ofFiles_of_loads paths otherTableHeld otherLinesHeld otherTableLoads otherLinesLoad, ?_⟩
  intro valid
  rw [valid]
  dsimp only [Except.mapError, bind, Except.bind]
  exact ⟨rfl, fun served => run_of_check valid served series found⟩

def tableOf (first second : String) : List UInt8 :=
  Utf8.encode ("timestamp,open,high,low,close\n" ++ first ++ "\n" ++ second ++ "\n")

def recordOf (line : String) : Csv.Record :=
  (Csv.records (Utf8.encode line)).head?.getD []

def earlyRow : String := "2024-01-02 09:05:00,100,101,99.5,100"

def lateRow : String := "2024-01-02 09:10:00,100,103,99.5,102"

def linesOf (first second : List UInt8) : List UInt8 :=
  first ++ Text.lineFeed :: second ++ [Text.lineFeed]

def earlyLine : List UInt8 :=
  Utf8.encode ("\x7b\"signal_id\": \"b\", \"timestamp\": \"2024-01-02 09:00:00\", " ++
    "\"direction\": \"long\", \"entry\": 100, \"sl\": 99, \"tp\": 102\x7d")

def lateLine : List UInt8 :=
  Utf8.encode ("\x7b\"signal_id\": \"a\", \"timestamp\": \"2024-01-02 09:05:00\", " ++
    "\"direction\": \"short\", \"entry\": 100, \"sl\": 101, \"tp\": 98\x7d")

def twoInputs : Configuration where
  data := { candles := some "candles.csv", signals := some "signals.jsonl" }

def inputTree (table lines : List UInt8) : FileTree :=
  (FileTree.empty.put ["candles.csv"] (.file table)).put ["signals.jsonl"] (.file lines)

theorem ofFiles_of_swapped_neighbours :
    let pools := eightThreads
    ∃ replay,
      finish (ofFiles pools twoInputs)
          (inputTree (tableOf earlyRow lateRow) (linesOf earlyLine lateLine)) =
        (.ok replay, inputTree (tableOf earlyRow lateRow) (linesOf earlyLine lateLine)) ∧
      finish (ofFiles pools twoInputs)
          (inputTree (tableOf lateRow earlyRow) (linesOf lateLine earlyLine)) =
        (.ok replay, inputTree (tableOf lateRow earlyRow) (linesOf lateLine earlyLine)) := by
  intro pools
  have paths : twoInputs.inputPaths = .ok ("candles.csv", "signals.jsonl") := rfl
  rcases exists_eq_ok (show (CandleTable.read Timestamp.standardPattern "candles.csv"
    (tableOf earlyRow lateRow)).isOk = true by decide +kernel) with ⟨series, tableLoads⟩
  rcases exists_eq_ok (show (SignalLines.read Timestamp.standardPattern "signals.jsonl"
    (linesOf earlyLine lateLine)).isOk = true by decide +kernel) with ⟨found, linesLoad⟩
  have named : ∀ line ∈ Text.lines (linesOf earlyLine lateLine), SignalLines.isNamed line := by
    decide +kernel
  have tableRearranged : CandleTable.IsRearranged Timestamp.standardPattern
      (tableOf earlyRow lateRow) (tableOf lateRow earlyRow) := by
    refine ⟨recordOf "timestamp,open,high,low,close", [recordOf earlyRow, recordOf lateRow],
      [recordOf lateRow, recordOf earlyRow], by decide +kernel, by decide +kernel, ?_⟩
    intro header names
    have known : (CandleTable.headerNames (recordOf "timestamp,open,high,low,close")).toOption =
        some ["timestamp", "open", "high", "low", "close"] := by decide +kernel
    rw [names] at known
    cases known
    exact Rearranged.swap (by decide +kernel) [] []
  have linesRearranged : SignalLines.IsRearranged Timestamp.standardPattern
      (linesOf earlyLine lateLine) (linesOf lateLine earlyLine) := by
    have lines : Text.lines (linesOf earlyLine lateLine) = [earlyLine, lateLine] := by
      decide +kernel
    have otherLines : Text.lines (linesOf lateLine earlyLine) = [lateLine, earlyLine] := by
      decide +kernel
    rw [SignalLines.IsRearranged, lines, otherLines]
    exact Rearranged.swap (by decide +kernel) [] []
  rcases ofFiles_of_isRearranged paths tableLoads linesLoad named tableRearranged
    linesRearranged with ⟨_, _, replays⟩
  rcases replays (inputTree (tableOf earlyRow lateRow) (linesOf earlyLine lateLine))
    (inputTree (tableOf lateRow earlyRow) (linesOf lateLine earlyLine)) rfl rfl rfl rfl with
    ⟨result, first, second, succeeds⟩
  rcases (succeeds rfl).2 (.inl rfl) with ⟨replay, rfl⟩
  exact ⟨replay, first, second⟩

end Replay

end SignalReplay
