import SignalReplay.Proofs.Failure
import SignalReplay.Proofs.Report.Groups
import SignalReplay.Proofs.Report.Pairing
import SignalReplay.Proofs.Tagging.Replay
import SignalReplay.Replay.Basic

/-!
Whole replays. With identifiers that differ, every outcome goes to its own signal, so that the
figures of a replay are those of its outcomes put in the order of their signals.
-/

namespace SignalReplay

namespace ThreadPools

/-- The pool for a number of threads is there: with zero none has to be built. -/
def Serve (pools : ThreadPools) (threads : Nat) : Prop :=
  threads = 0 ∨ pools.build threads = .ok ()

theorem provide_eq_ok_iff (pools : ThreadPools) {threads : Nat} :
    pools.provide threads = .ok () ↔ pools.Serve threads := by
  unfold provide Serve
  split
  · next none => simp [none]
  · next some => simp [some]

end ThreadPools

namespace GroupedReport

theorem mergeSort_pairs (signals : List Signal) (outcomeOf : Signal → Outcome) :
    (signals.map fun signal => (⟨signal, outcomeOf signal⟩ : TaggedSignal)).mergeSort
        TaggedSignal.notLater =
      (signals.mergeSort Signal.notLater).map fun signal => ⟨signal, outcomeOf signal⟩ := by
  symm
  apply List.map_mergeSort
  intro left _ right _
  rfl

end GroupedReport

namespace Replay

variable {pools : ThreadPools}

/-- A replay whose outcomes and figures are those of its signals. -/
structure Accounts (replay : Replay) (signals : List Signal) (edges : HistogramEdges)
    (outcomeOf : Signal → Outcome) : Prop where
  outcomes : replay.outcomes = signals.map outcomeOf
  overall : replay.report.overall =
    .ofOutcomes edges ((signals.mergeSort Signal.notLater).map outcomeOf)
  keys_nodup : (replay.report.groups.map (·.key)).Nodup
  mem_keys : ∀ key, key ∈ replay.report.groups.map (·.key) ↔
    ∃ signal ∈ signals, GroupKey.ofSignal signal = key
  metrics : ∀ row ∈ replay.report.groups, row.metrics = .ofOutcomes edges
    (((signals.mergeSort Signal.notLater).filter
      fun signal => GroupKey.ofSignal signal = row.key).map outcomeOf)

theorem accounts_ofData (series : CandleSeries) {signals : List Signal}
    (distinct : (signals.map (·.id)).Nodup) (tieBreak : TieBreak) (edges : HistogramEdges) :
    (ofData series signals tieBreak edges).Accounts signals edges
      fun signal => signal.tag series tieBreak := by
  have pairs : pairOutcomes signals (tagAll signals series tieBreak) =
      signals.map fun signal => ⟨signal, signal.tag series tieBreak⟩ :=
    pairOutcomes_map distinct _ fun signal => signalId_tag signal series tieBreak
  have report : (ofData series signals tieBreak edges).report =
      .ofPairs edges (signals.map fun signal => ⟨signal, signal.tag series tieBreak⟩) :=
    congrArg (GroupedReport.ofPairs edges) pairs
  have ordered := GroupedReport.mergeSort_pairs signals fun signal => signal.tag series tieBreak
  refine ⟨rfl, ?_, ?_, ?_, ?_⟩
  · rw [report, GroupedReport.ofPairs, ordered, List.map_map]
    rfl
  · rw [report]
    exact GroupedReport.nodup_keys_rankedRows
  · intro key
    rw [report, GroupedReport.ofPairs, ordered, GroupedReport.mem_keys_rankedRows]
    constructor
    · rintro ⟨pair, found, equal⟩
      rcases List.mem_map.mp found with ⟨signal, member, rfl⟩
      exact ⟨signal, List.mem_mergeSort.mp member, equal⟩
    · rintro ⟨signal, member, equal⟩
      exact ⟨_, List.mem_map_of_mem (List.mem_mergeSort.mpr member), equal⟩
  · intro row found
    rw [report, GroupedReport.ofPairs, ordered] at found
    rw [GroupedReport.metrics_of_mem_rankedRows found, List.filter_map, List.map_map]
    rfl

theorem run_eq {configuration : Configuration} {tieBreak : TieBreak} {edges : HistogramEdges}
    (tieBreakRead : configuration.tieBreak = .ok tieBreak)
    (edgesRead : configuration.edges = .ok edges)
    (served : pools.Serve configuration.tagging.threads) (series : CandleSeries)
    (signals : List Signal) :
    run pools configuration series signals = .ok (ofData series signals tieBreak edges) := by
  rw [run, tieBreakRead, edgesRead, pools.provide_eq_ok_iff.mpr served]
  rfl

theorem run_eq_or_refused {configuration : Configuration} {tieBreak : TieBreak}
    {edges : HistogramEdges} (tieBreakRead : configuration.tieBreak = .ok tieBreak)
    (edgesRead : configuration.edges = .ok edges) (series : CandleSeries) (signals : List Signal) :
    run pools configuration series signals = .ok (ofData series signals tieBreak edges) ∨
      ∃ fault, configuration.tagging.threads ≠ 0 ∧
        pools.build configuration.tagging.threads = .error fault ∧
        run pools configuration series signals = .error (.threadPool fault) := by
  by_cases none : configuration.tagging.threads = 0
  · exact .inl (run_eq tieBreakRead edgesRead (.inl none) series signals)
  · cases built : pools.build configuration.tagging.threads with
    | ok _ => exact .inl (run_eq tieBreakRead edgesRead (.inr built) series signals)
    | error fault =>
        refine .inr ⟨fault, none, rfl, ?_⟩
        rw [run, tieBreakRead, edgesRead, ThreadPools.provide, if_neg none, built]
        rfl

theorem exists_of_run {configuration : Configuration} {series : CandleSeries}
    {signals : List Signal} {replay : Replay}
    (ran : run pools configuration series signals = .ok replay) :
    ∃ tieBreak edges, configuration.tieBreak = .ok tieBreak ∧ configuration.edges = .ok edges ∧
      pools.Serve configuration.tagging.threads ∧ replay = ofData series signals tieBreak edges := by
  rcases bind_eq_ok_iff.mp ran with ⟨tieBreak, tieBreakRead, ran⟩
  rcases bind_eq_ok_iff.mp ran with ⟨edges, edgesRead, ran⟩
  rcases bind_eq_ok_iff.mp ran with ⟨_, provided, ended⟩
  exact ⟨tieBreak, edges, mapError_eq_ok_iff.mp tieBreakRead, mapError_eq_ok_iff.mp edgesRead,
    pools.provide_eq_ok_iff.mp (mapError_eq_ok_iff.mp provided), (Except.ok.inj ended).symm⟩

theorem settings_of_check {configuration : Configuration}
    (valid : configuration.check = .ok ()) :
    (∃ tieBreak, configuration.tieBreak = .ok tieBreak) ∧
      ∃ edges, configuration.edges = .ok edges := by
  unfold Configuration.check at valid
  generalize configuration.tieBreak = tieBreakRead at *
  generalize configuration.edges = edgesRead at *
  cases tieBreakRead with
  | error error => cases valid
  | ok tieBreak =>
      cases edgesRead with
      | error error => cases valid
      | ok edges => exact ⟨⟨tieBreak, rfl⟩, ⟨edges, rfl⟩⟩

/-- Signals with distinct identifiers are replayed under every valid configuration whose pool of
threads can be built, each outcome counts for its own signal, and nothing else counts. -/
theorem run_accounts {configuration : Configuration} (valid : configuration.check = .ok ())
    (served : pools.Serve configuration.tagging.threads) (series : CandleSeries)
    {signals : List Signal} (distinct : (signals.map (·.id)).Nodup) :
    ∃ tieBreak edges replay, configuration.tieBreak = .ok tieBreak ∧
      configuration.edges = .ok edges ∧ run pools configuration series signals = .ok replay ∧
      replay.Accounts signals edges fun signal => signal.tag series tieBreak := by
  rcases settings_of_check valid with ⟨⟨tieBreak, tieBreakRead⟩, edges, edgesRead⟩
  exact ⟨tieBreak, edges, ofData series signals tieBreak edges, tieBreakRead, edgesRead,
    run_eq tieBreakRead edgesRead served series signals,
    accounts_ofData series distinct tieBreak edges⟩

def sampleSignal (id : String) : Signal where
  id := id
  timestamp := (Instant.ofMicros? 0).get (by decide)
  symbol := "EURUSD"
  timeframe := "M5"
  direction := .long
  kind := none
  entry := .ofFloat 100.0
  stop := .ofFloat 99.0
  target := .ofFloat 102.0
  session := none
  notes := []

def tradeOf (id symbol : String) (timestamp : Instant) : Signal :=
  { Signal.longAtHundred timestamp with id := id, symbol := symbol }

def eightThreads : ThreadPools where
  build threads := if threads ≤ 8 then .ok () else .error ⟨"out of threads"⟩

def fourThreads : Configuration where
  tagging := { threads := 4 }

/-- Neither candles nor signals are given in order of time. The signal in the middle loses, between
two that win, of which one is of its own group. -/
theorem run_accounts_of_two_groups :
    let rise := Signal.swing ⟨60, 0, by decide, by decide, by decide⟩ 99.5 102.0
    let fall := Signal.swing ⟨120, 0, by decide, by decide, by decide⟩ 98.5 100.5
    let lateRise := Signal.swing ⟨180, 0, by decide, by decide, by decide⟩ 99.5 102.0
    let series := CandleSeries.ofList [lateRise, rise, fall]
    let first := tradeOf "first" "GBPUSD" ⟨30, 0, by decide, by decide, by decide⟩
    let middle := tradeOf "middle" "EURUSD" ⟨90, 0, by decide, by decide, by decide⟩
    let last := tradeOf "last" "EURUSD" ⟨150, 0, by decide, by decide, by decide⟩
    fourThreads.check = .ok () ∧ eightThreads.Serve fourThreads.tagging.threads ∧
      ([middle, first, last].map (·.id)).Nodup ∧
      ∃ tieBreak edges replay, fourThreads.tieBreak = .ok tieBreak ∧
        fourThreads.edges = .ok edges ∧
        run eightThreads fourThreads series [middle, first, last] = .ok replay ∧
        (replay.Accounts [middle, first, last] edges
          fun signal => signal.tag series tieBreak) ∧
        replay.outcomes.map (·.label) = [.loss, .win, .win] ∧
        replay.report.overall.maxWinStreak = 1 ∧
        (∀ row ∈ replay.report.groups, row.key = GroupKey.ofSignal last →
          row.metrics.wins = 1 ∧ row.metrics.losses = 1) ∧
        ∀ row ∈ replay.report.groups, row.key = GroupKey.ofSignal first →
          row.metrics.wins = 1 ∧ row.metrics.losses = 0 := by
  intro rise fall lateRise series first middle last
  have valid : fourThreads.check = .ok () := by rfl
  have served : eightThreads.Serve fourThreads.tagging.threads := .inr rfl
  have distinct : ([middle, first, last].map (·.id)).Nodup := by decide
  rcases run_accounts valid served series distinct with
    ⟨tieBreak, edges, replay, tieBreakRead, edgesRead, ran, accounts⟩
  cases (show fourThreads.edges = .ok .standard from rfl).symm.trans edgesRead
  have candlesInTime : series.toList = [rise, fall, lateRise] := by
    rw [CandleSeries.toList_ofList]
    exact Sorting.mergeSort_eq_of_perm Candle.notLater_trans Candle.notLater_total
      (by decide +kernel) (by decide +kernel) (by decide +kernel)
  have signalsInTime : [middle, first, last].mergeSort Signal.notLater = [first, middle, last] := by
    apply Sorting.mergeSort_eq_of_perm
      (fun left middle right => Instant.le_trans left.timestamp middle.timestamp right.timestamp)
      (fun left right => Instant.le_total left.timestamp right.timestamp)
    · exact List.Perm.swap _ _ _
    · decide +kernel
    · have notBack : middle.notLater first = false ∧ last.notLater first = false ∧
          last.notLater middle = false := by decide
      simp [Sorting.alike, notBack]
  have tagged (signal : Signal) : signal.tag series tieBreak =
      signal.replay .loss {} ([rise, fall, lateRise].filter (Candle.isAfter signal.timestamp)) := by
    rw [Signal.tag, CandleSeries.after_eq_filter, candlesInTime]
  refine ⟨valid, served, distinct, tieBreak, _, replay, tieBreakRead, edgesRead, ran, accounts,
    ?_, ?_, ?_, ?_⟩
  · rw [accounts.outcomes]
    simp only [List.map_cons, List.map_nil, tagged]
    decide +kernel
  · rw [accounts.overall, signalsInTime]
    simp only [List.map_cons, List.map_nil, tagged]
    decide +kernel
  · intro row member key
    rw [accounts.metrics row member, signalsInTime, key]
    simp only [tagged]
    decide +kernel
  · intro row member key
    rw [accounts.metrics row member, signalsInTime, key]
    simp only [tagged]
    decide +kernel

end Replay

end SignalReplay
