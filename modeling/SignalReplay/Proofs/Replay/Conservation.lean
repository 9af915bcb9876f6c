import SignalReplay.Proofs.Replay.Run

/-!
What grouping conserves. Every outcome of a report counts in exactly one of its rows, so the counts
of the rows add up to those of the whole, and the join before it drops no outcome of a run.
-/

namespace SignalReplay

namespace CorpusMetrics

open SignalReplay.Partition

/-! ## Counts of outcomes -/

def countAt (metrics : CorpusMetrics) (place : Nat) : Nat :=
  (metrics.histogram[place]?.map (·.count)).getD 0

def Counts (edges : HistogramEdges) (figure : CorpusMetrics → Nat) : Prop :=
  Additive fun outcomes => figure (.ofOutcomes edges outcomes)

variable (edges : HistogramEdges)

theorem additive_countP_rMultiples (test : Float → Bool) :
    Additive fun outcomes => (Metrics.rMultiples outcomes).countP test :=
  (additive_countP test).filterMap _

theorem counts_countAt (place : Nat) : Counts edges (·.countAt place) := by
  have places : Additive fun outcomes =>
      ((Metrics.rMultiples outcomes).filterMap edges.bucketOf?).count place :=
    ((additive_countP (· == place)).filterMap edges.bucketOf?).filterMap _
  intro left right
  simp only [countAt, ofOutcomes, Metrics.histogram, List.getElem?_mapIdx, Option.map_map]
  cases edges.labels[place]? with
  | none => rfl
  | some label => exact places left right

@[simp]
theorem labels_histogram (outcomes : List Outcome) :
    (ofOutcomes edges outcomes).histogram.map (·.label) = edges.labels := by
  apply List.ext_getElem?
  intro place
  simp only [ofOutcomes, Metrics.histogram, List.getElem?_map, List.getElem?_mapIdx]
  cases edges.labels[place]? <;> rfl

end CorpusMetrics

namespace GroupedReport

open SignalReplay.Partition

/-! ## Reports -/

/-- Rows with keys of their own, whose counts add up to those of the whole report. -/
structure Balances (report : GroupedReport) : Prop where
  keys_nodup : (report.groups.map (·.key)).Nodup
  sampleSize : (report.groups.map (·.metrics.sampleSize)).sum = report.overall.sampleSize
  completed : (report.groups.map (·.metrics.completed)).sum = report.overall.completed
  unknown : (report.groups.map (·.metrics.unknown)).sum = report.overall.unknown
  wins : (report.groups.map (·.metrics.wins)).sum = report.overall.wins
  losses : (report.groups.map (·.metrics.losses)).sum = report.overall.losses
  breakEven : (report.groups.map (·.metrics.breakEven)).sum = report.overall.breakEven
  labels : ∀ row ∈ report.groups,
    row.metrics.histogram.map (·.label) = report.overall.histogram.map (·.label)
  buckets : ∀ place,
    (report.groups.map (·.metrics.countAt place)).sum = report.overall.countAt place

variable {edges : HistogramEdges}

theorem sum_rankedRows (figure : CorpusMetrics → Nat)
    (counts : CorpusMetrics.Counts edges figure) (ordered : List TaggedSignal) :
    ((rankedRows edges ordered).map fun row => figure row.metrics).sum =
      figure (.ofOutcomes edges (ordered.map (·.outcome))) := by
  have ranked := (List.mergeSort_perm ((classes
    (fun pair => GroupKey.ofSignal pair.signal) ordered).map (GroupRow.ofClass edges))
    GroupRow.ranksNoLater).map fun row => figure row.metrics
  rw [rankedRows, ranked.sum_nat, List.map_map]
  exact sum_classes (Additive.map counts (·.outcome))
    (fun pair => GroupKey.ofSignal pair.signal) ordered

theorem balances_ofPairs (edges : HistogramEdges) (pairs : List TaggedSignal) :
    (ofPairs edges pairs).Balances where
  keys_nodup := nodup_keys_rankedRows
  sampleSize := sum_rankedRows (·.sampleSize) additive_length _
  completed := sum_rankedRows (·.completed) (additive_countP _) _
  unknown := sum_rankedRows (·.unknown) (additive_countP _) _
  wins := sum_rankedRows (·.wins) (CorpusMetrics.additive_countP_rMultiples _) _
  losses := sum_rankedRows (·.losses) (CorpusMetrics.additive_countP_rMultiples _) _
  breakEven := sum_rankedRows (·.breakEven) (CorpusMetrics.additive_countP_rMultiples _) _
  labels row found := by
    rw [metrics_of_mem_rankedRows found, CorpusMetrics.labels_histogram]
    exact (CorpusMetrics.labels_histogram edges _).symm
  buckets place := sum_rankedRows (·.countAt place) (CorpusMetrics.counts_countAt edges place) _

end GroupedReport

namespace Replay

/-! ## Runs -/

/-- The join of a run drops nothing, whatever the identifiers of the signals are. -/
@[simp]
theorem map_outcome_pairOutcomes_tagAll (signals : List Signal) (series : CandleSeries)
    (tieBreak : TieBreak) :
    (pairOutcomes signals (tagAll signals series tieBreak)).map (·.outcome) =
      tagAll signals series tieBreak := by
  apply map_outcome_pairOutcomes
  intro outcome member
  rcases List.mem_map.mp member with ⟨signal, inSignals, equal⟩
  exact ⟨signal, inSignals, by rw [← equal, signalId_tag]⟩

theorem sampleSize_ofData (series : CandleSeries) (signals : List Signal) (tieBreak : TieBreak)
    (edges : HistogramEdges) :
    (ofData series signals tieBreak edges).report.overall.sampleSize = signals.length := by
  have pairs := congrArg List.length (map_outcome_pairOutcomes_tagAll signals series tieBreak)
  rw [List.length_map, tagAll, List.length_map] at pairs
  simpa [ofData, GroupedReport.ofPairs, CorpusMetrics.ofOutcomes, tagAll] using pairs

/-- Grouping loses no outcome and counts none twice, and a run reports every signal once, even
where signals share an identifier. -/
theorem conserves_outcomes :
    (∀ (edges : HistogramEdges) (pairs : List TaggedSignal),
      (GroupedReport.ofPairs edges pairs).Balances) ∧
    ∀ (pools : ThreadPools) (configuration : Configuration) (series : CandleSeries)
      (signals : List Signal) (replay : Replay),
      run pools configuration series signals = .ok replay →
      replay.report.overall.sampleSize = replay.signalCount ∧
        replay.signalCount = signals.length ∧ replay.outcomes.length = replay.signalCount := by
  refine ⟨GroupedReport.balances_ofPairs, ?_⟩
  intro pools configuration series signals replay ran
  rcases exists_of_run ran with ⟨tieBreak, edges, -, -, -, rfl⟩
  exact ⟨sampleSize_ofData series signals tieBreak edges, rfl, List.length_map _⟩

theorem conserves_outcomes_of_one_id :
    ∃ replay, run .unlimited {} (.ofList []) [sampleSignal "a", sampleSignal "a"] = .ok replay ∧
      replay.report.overall.sampleSize = replay.signalCount ∧ replay.signalCount = 2 ∧
      replay.outcomes.length = replay.signalCount := by
  have valid : ({} : Configuration).check = .ok () := by rfl
  rcases settings_of_check valid with ⟨⟨tieBreak, tieBreakRead⟩, edges, edgesRead⟩
  have served : ThreadPools.unlimited.Serve ({} : Configuration).tagging.threads := .inl rfl
  have ran := run_eq tieBreakRead edgesRead served (.ofList [])
    [sampleSignal "a", sampleSignal "a"]
  exact ⟨_, ran, conserves_outcomes.2 _ _ _ _ _ ran⟩

end Replay

end SignalReplay
