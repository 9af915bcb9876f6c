import SignalReplay.Proofs.Failure
import SignalReplay.Proofs.Replay.Conservation
import SignalReplay.Proofs.Signal.Lines

/-!
Signals that share an identifier. An outcome is filed under the group of the first signal with its
identifier, which is the group of its own signal wherever namesakes are of one group.
-/

namespace SignalReplay

namespace GroupedReport

/-- A report with one row for each group among the signals, in which every outcome is filed under
the group of its signal. -/
structure FiledBy (report : GroupedReport) (edges : HistogramEdges) (signals : List Signal)
    (outcomeOf : Signal → Outcome) (groupOf : Signal → GroupKey) : Prop where
  keys_nodup : (report.groups.map (·.key)).Nodup
  mem_keys : ∀ key, key ∈ report.groups.map (·.key) ↔ ∃ signal ∈ signals, groupOf signal = key
  metrics : ∀ row ∈ report.groups, ∃ members : List Signal,
    members.Perm (signals.filter fun signal => groupOf signal = row.key) ∧
      row.metrics = .ofOutcomes edges (members.map outcomeOf)
  sampleSize : ∀ row ∈ report.groups,
    row.metrics.sampleSize = signals.countP fun signal => groupOf signal = row.key

variable {report : GroupedReport} {edges : HistogramEdges} {signals : List Signal}
  {outcomeOf : Signal → Outcome}

theorem FiledBy.congr {groupOf other : Signal → GroupKey}
    (filed : report.FiledBy edges signals outcomeOf groupOf)
    (same : ∀ signal ∈ signals, groupOf signal = other signal) :
    report.FiledBy edges signals outcomeOf other where
  keys_nodup := filed.keys_nodup
  mem_keys key := by
    rw [filed.mem_keys]
    constructor
    · rintro ⟨signal, member, equal⟩
      exact ⟨signal, member, (same signal member).symm.trans equal⟩
    · rintro ⟨signal, member, equal⟩
      exact ⟨signal, member, (same signal member).trans equal⟩
  metrics row found := by
    rcases filed.metrics row found with ⟨members, arranged, equal⟩
    refine ⟨members, ?_, equal⟩
    rwa [List.filter_congr fun signal member => by rw [same signal member]] at arranged
  sampleSize row found := by
    rw [filed.sampleSize row found]
    exact List.countP_congr fun signal member => by rw [same signal member]

theorem filedBy_ofPairs (edges : HistogramEdges) (signals : List Signal)
    (outcomeOf : Signal → Outcome) (pairedWith : Signal → Signal) :
    (ofPairs edges (signals.map fun signal =>
      (⟨pairedWith signal, outcomeOf signal⟩ : TaggedSignal))).FiledBy edges signals outcomeOf
      fun signal => .ofSignal (pairedWith signal) := by
  let notLater (left right : Signal) : Bool := (pairedWith left).notLater (pairedWith right)
  have ordered : (signals.map fun signal =>
      (⟨pairedWith signal, outcomeOf signal⟩ : TaggedSignal)).mergeSort TaggedSignal.notLater =
        (signals.mergeSort notLater).map fun signal => ⟨pairedWith signal, outcomeOf signal⟩ := by
    symm
    apply List.map_mergeSort
    intro left _ right _
    rfl
  have arranged := List.mergeSort_perm signals notLater
  have metrics (row : GroupRow) (found : row ∈ rankedRows edges ((signals.mergeSort notLater).map
      fun signal => (⟨pairedWith signal, outcomeOf signal⟩ : TaggedSignal))) :
      row.metrics = .ofOutcomes edges (((signals.mergeSort notLater).filter
        fun signal => GroupKey.ofSignal (pairedWith signal) = row.key).map outcomeOf) := by
    rw [metrics_of_mem_rankedRows found, List.filter_map, List.map_map]
    rfl
  rw [ofPairs, ordered]
  refine ⟨nodup_keys_rankedRows, ?_, ?_, ?_⟩
  · intro key
    rw [mem_keys_rankedRows]
    constructor
    · rintro ⟨pair, found, equal⟩
      rcases List.mem_map.mp found with ⟨signal, member, rfl⟩
      exact ⟨signal, arranged.mem_iff.mp member, equal⟩
    · rintro ⟨signal, member, equal⟩
      exact ⟨_, List.mem_map_of_mem (arranged.mem_iff.mpr member), equal⟩
  · intro row found
    exact ⟨_, arranged.filter _, metrics row found⟩
  · intro row found
    rw [metrics row found, CorpusMetrics.ofOutcomes, List.length_map, ← List.countP_eq_length_filter]
    exact arranged.countP_eq _

end GroupedReport

namespace Replay

open GroupKey

def AgreeOnGroups (signals : List Signal) : Prop :=
  ∀ left ∈ signals, ∀ right ∈ signals, left.id = right.id → ofSignal left = ofSignal right

theorem filedBy_namesakes (series : CandleSeries) (signals : List Signal) (tieBreak : TieBreak)
    (edges : HistogramEdges) :
    (ofData series signals tieBreak edges).report.FiledBy edges signals
      (fun signal => signal.tag series tieBreak)
      fun signal => ofSignal (signal.namesake signals) := by
  have pairs : pairOutcomes signals (tagAll signals series tieBreak) =
      signals.map fun signal => ⟨signal.namesake signals, signal.tag series tieBreak⟩ :=
    pairOutcomes_map_namesake signals _ fun signal => signalId_tag signal series tieBreak
  have report : (ofData series signals tieBreak edges).report =
      .ofPairs edges (signals.map fun signal =>
        ⟨signal.namesake signals, signal.tag series tieBreak⟩) :=
    congrArg (GroupedReport.ofPairs edges) pairs
  rw [report]
  exact GroupedReport.filedBy_ofPairs edges signals _ _

/-- Every valid configuration replays any signals, unless the pool for its threads cannot be built,
and each outcome counts once: under the group of the first signal with its identifier. That is the
group of its own signal if signals that share an identifier are of one group. -/
theorem run_filedBy {configuration : Configuration} (valid : configuration.check = .ok ())
    (pools : ThreadPools) (series : CandleSeries) (signals : List Signal) :
    ∃ tieBreak edges replay, configuration.tieBreak = .ok tieBreak ∧
      configuration.edges = .ok edges ∧
      (run pools configuration series signals = .ok replay ∨
        ∃ fault, configuration.tagging.threads ≠ 0 ∧
          pools.build configuration.tagging.threads = .error fault ∧
          run pools configuration series signals = .error (.threadPool fault)) ∧
      (replay.report.FiledBy edges signals (fun signal => signal.tag series tieBreak)
        fun signal => ofSignal (signal.namesake signals)) ∧
      (AgreeOnGroups signals → replay.report.FiledBy edges signals
        (fun signal => signal.tag series tieBreak) ofSignal) := by
  rcases settings_of_check valid with ⟨⟨tieBreak, tieBreakRead⟩, edges, edgesRead⟩
  have filed := filedBy_namesakes series signals tieBreak edges
  refine ⟨tieBreak, edges, ofData series signals tieBreak edges, tieBreakRead, edgesRead,
    run_eq_or_refused tieBreakRead edgesRead series signals, filed, ?_⟩
  intro agree
  apply filed.congr
  intro signal member
  rcases namesake_mem member with ⟨namesake, sameId⟩
  exact agree _ namesake _ member sameId

theorem run_filedBy_of_one_id :
    ({} : Configuration).check = .ok () ∧
      AgreeOnGroups [sampleSignal "a", sampleSignal "a"] ∧
      ∃ tieBreak edges replay,
        run .unlimited {} (.ofList []) [sampleSignal "a", sampleSignal "a"] = .ok replay ∧
        replay.report.FiledBy edges [sampleSignal "a", sampleSignal "a"]
          (fun signal => signal.tag (.ofList []) tieBreak) ofSignal := by
  have valid : ({} : Configuration).check = .ok () := by rfl
  have agree : AgreeOnGroups [sampleSignal "a", sampleSignal "a"] := by
    unfold AgreeOnGroups
    decide
  rcases run_filedBy valid .unlimited (.ofList []) [sampleSignal "a", sampleSignal "a"] with
    ⟨tieBreak, edges, replay, _, _, ran | ⟨_, some, _⟩, _, filed⟩
  · exact ⟨valid, agree, tieBreak, edges, replay, ran, filed agree⟩
  · exact absurd rfl some

def lineTrading (symbol : String) : List UInt8 :=
  SignalLines.longLine ("\"symbol\": \"" ++ symbol ++ "\"")

def groupTrading (symbol : String) : GroupKey :=
  ⟨symbol, "", none, none, .long⟩

def tradingTime : Instant :=
  (Instant.ofMicros? 1704186000000000).get (by decide)

/-- Two lines with one identifier, each with a symbol of its own, load. Their replay has no row for
the second symbol and counts both outcomes for the first. -/
theorem not_filedBy_own_group :
    ∃ signals replay,
      SignalLines.read Timestamp.standardPattern "signals.jsonl"
        (lineTrading "EURUSD" ++ lineTrading "GBPUSD") = .ok signals ∧
      ({} : Configuration).check = .ok () ∧
      (∀ pools, run pools {} (.ofList []) signals = .ok replay) ∧
      (signals.countP fun signal => ofSignal signal = groupTrading "GBPUSD") = 1 ∧
      groupTrading "GBPUSD" ∉ replay.report.groups.map (·.key) ∧
      (∃ row ∈ replay.report.groups, row.key = groupTrading "EURUSD" ∧
        row.metrics.sampleSize = 2) ∧
      ∀ edges outcomeOf, ¬ replay.report.FiledBy edges signals outcomeOf ofSignal := by
  have valid : ({} : Configuration).check = .ok () := by rfl
  rcases settings_of_check valid with ⟨⟨tieBreak, tieBreakRead⟩, edges, edgesRead⟩
  have loaded : (SignalLines.signals Timestamp.standardPattern 1
      (Text.lines (lineTrading "EURUSD" ++ lineTrading "GBPUSD"))).toOption.map
        (·.map fun signal => (signal.id, ofSignal signal, signal.timestamp)) =
      some [("a", groupTrading "EURUSD", tradingTime),
        ("a", groupTrading "GBPUSD", tradingTime)] := by decide +kernel
  rcases Option.map_eq_some_iff.mp loaded with ⟨signals, held, views⟩
  rcases List.map_eq_cons_iff.mp views with ⟨euro, others, rfl, euroView, views⟩
  rcases List.map_eq_cons_iff.mp views with ⟨pound, others, rfl, poundView, views⟩
  cases List.map_eq_nil_iff.mp views
  simp only [Prod.mk.injEq] at euroView poundView
  rcases euroView with ⟨euroId, euroGroup, euroTime⟩
  rcases poundView with ⟨poundId, poundGroup, poundTime⟩
  have inOrder : [euro, pound].mergeSort Signal.notLater = [euro, pound] := by
    apply List.mergeSort_of_pairwise
    rw [List.pairwise_pair, Signal.notLater, euroTime, poundTime]
    decide
  have read : SignalLines.read Timestamp.standardPattern "signals.jsonl"
      (lineTrading "EURUSD" ++ lineTrading "GBPUSD") = .ok [euro, pound] := by
    rw [SignalLines.read, toOption_eq_some_iff.mp held]
    exact congrArg Except.ok inOrder
  have first : ∀ signal ∈ [euro, pound], signal.namesake [euro, pound] = euro := by
    simp [Signal.namesake, euroId, poundId]
  have filed := filedBy_namesakes (.ofList []) [euro, pound] tieBreak edges
  have absent : groupTrading "GBPUSD" ∉
      (ofData (.ofList []) [euro, pound] tieBreak edges).report.groups.map (·.key) := by
    rw [filed.mem_keys]
    rintro ⟨signal, member, equal⟩
    rw [first signal member, euroGroup] at equal
    revert equal
    decide
  refine ⟨[euro, pound], _, read, valid,
    fun _ => run_eq tieBreakRead edgesRead (.inl rfl) (.ofList []) [euro, pound], ?_, absent, ?_, ?_⟩
  · simp [euroGroup, poundGroup, groupTrading]
  · have present : groupTrading "EURUSD" ∈
        (ofData (.ofList []) [euro, pound] tieBreak edges).report.groups.map (·.key) := by
      rw [filed.mem_keys]
      exact ⟨euro, by simp, by rw [first euro (by simp), euroGroup]⟩
    rcases List.mem_map.mp present with ⟨row, found, key⟩
    refine ⟨row, found, key, ?_⟩
    rw [filed.sampleSize row found, key]
    simp [first, euroGroup]
  · intro _ _ own
    exact absent ((own.mem_keys _).mpr ⟨pound, by simp, poundGroup⟩)

end Replay

end SignalReplay
