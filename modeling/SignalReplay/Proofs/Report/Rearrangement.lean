import SignalReplay.Proofs.Rearrangement
import SignalReplay.Proofs.Report.Groups

/-!
Reports of pairs in another order. Whatever the order, the same groups have the same counts and
rates. Drawdown, streaks and sums depend on the order in time alone, so that the whole report is
the same as long as pairs of one timestamp keep their order.
-/

namespace SignalReplay

namespace CorpusMetrics

/-- The figures that do not depend on the order of the outcomes agree. -/
structure CountsAlike (left right : CorpusMetrics) : Prop where
  sampleSize : left.sampleSize = right.sampleSize
  completed : left.completed = right.completed
  unknown : left.unknown = right.unknown
  wins : left.wins = right.wins
  losses : left.losses = right.losses
  breakEven : left.breakEven = right.breakEven
  winRate : left.winRate = right.winRate
  lossRate : left.lossRate = right.lossRate
  breakEvenRate : left.breakEvenRate = right.breakEvenRate
  histogram : left.histogram = right.histogram

variable {outcomes others : List Outcome}

theorem rMultiples_perm (arranged : others.Perm outcomes) :
    (Metrics.rMultiples others).Perm (Metrics.rMultiples outcomes) :=
  arranged.filterMap _

theorem histogram_of_perm (edges : HistogramEdges) (arranged : others.Perm outcomes) :
    Metrics.histogram edges others = Metrics.histogram edges outcomes := by
  have places := (rMultiples_perm arranged).filterMap edges.bucketOf?
  simp only [Metrics.histogram, places.count_eq]

theorem countsAlike_of_perm (edges : HistogramEdges) (arranged : others.Perm outcomes) :
    (ofOutcomes edges others).CountsAlike (ofOutcomes edges outcomes) := by
  have multiples := rMultiples_perm arranged
  have rate (test : Float → Bool) :
      Metrics.rate ((Metrics.rMultiples others).countP test) (Metrics.rMultiples others).length =
        Metrics.rate ((Metrics.rMultiples outcomes).countP test)
          (Metrics.rMultiples outcomes).length := by
    rw [multiples.countP_eq, multiples.length_eq]
  constructor
  · exact arranged.length_eq
  · exact arranged.countP_eq _
  · exact arranged.countP_eq _
  · exact multiples.countP_eq _
  · exact multiples.countP_eq _
  · exact multiples.countP_eq _
  · exact rate _
  · exact rate _
  · exact rate _
  · exact histogram_of_perm edges arranged

end CorpusMetrics

namespace GroupedReport

structure CountsAlike (left right : GroupedReport) : Prop where
  overall : left.overall.CountsAlike right.overall
  keys : (left.groups.map (·.key)).Perm (right.groups.map (·.key))
  rows : ∀ row ∈ left.groups, ∀ other ∈ right.groups, row.key = other.key →
    row.metrics.CountsAlike other.metrics

variable {pairs others : List TaggedSignal}

theorem keys_perm_of_perm (edges : HistogramEdges) (arranged : others.Perm pairs) :
    ((rankedRows edges others).map (·.key)).Perm ((rankedRows edges pairs).map (·.key)) := by
  apply (List.perm_ext_iff_of_nodup nodup_keys_rankedRows nodup_keys_rankedRows).mpr
  intro key
  simp only [mem_keys_rankedRows, arranged.mem_iff]

theorem countsAlike_of_perm (edges : HistogramEdges) (arranged : others.Perm pairs) :
    (ofPairs edges others).CountsAlike (ofPairs edges pairs) := by
  have ordered : (others.mergeSort TaggedSignal.notLater).Perm
      (pairs.mergeSort TaggedSignal.notLater) :=
    (List.mergeSort_perm others _).trans
      (arranged.trans (List.mergeSort_perm pairs _).symm)
  refine ⟨?_, keys_perm_of_perm edges ordered, ?_⟩
  · exact CorpusMetrics.countsAlike_of_perm edges (ordered.map _)
  · intro row found other otherFound same
    rw [metrics_of_mem_rankedRows found, metrics_of_mem_rankedRows otherFound, same]
    exact CorpusMetrics.countsAlike_of_perm edges ((ordered.filter _).map _)

/-- Pairs in another order that leaves those of one timestamp as they were. -/
def IsRearranged (pairs others : List TaggedSignal) : Prop :=
  Rearranged (fun pair => some pair.signal.timestamp) pairs others

theorem mergeSort_of_isRearranged (rearranged : IsRearranged pairs others) :
    others.mergeSort TaggedSignal.notLater = pairs.mergeSort TaggedSignal.notLater := by
  have sorted := @Rearranged.mergeSort_filterMap _ _ some
    (fun pair : TaggedSignal => pair.signal.timestamp) pairs others rearranged
  rwa [List.filterMap_some, List.filterMap_some] at sorted

/-- A report of pairs in another order has the same groups with the same counts and rates. If pairs
of one timestamp keep their order, it is the same report. -/
theorem ofPairs_of_perm (edges : HistogramEdges) (arranged : others.Perm pairs) :
    (ofPairs edges others).CountsAlike (ofPairs edges pairs) ∧
      (IsRearranged pairs others → ofPairs edges others = ofPairs edges pairs) := by
  refine ⟨countsAlike_of_perm edges arranged, fun rearranged => ?_⟩
  rw [ofPairs, ofPairs, mergeSort_of_isRearranged rearranged]

def earlyLoss : TaggedSignal :=
  .sample "EURUSD" ((Instant.ofMicros? 1704186300000000).get (by decide)) (-1.0)

def lateGain : TaggedSignal :=
  .sample "EURUSD" ((Instant.ofMicros? 1704186600000000).get (by decide)) 2.0

theorem ofPairs_of_perm_swapped :
    [lateGain, earlyLoss].Perm [earlyLoss, lateGain] ∧
      (ofPairs .standard [lateGain, earlyLoss]).CountsAlike
        (ofPairs .standard [earlyLoss, lateGain]) ∧
      IsRearranged [earlyLoss, lateGain] [lateGain, earlyLoss] ∧
      ofPairs .standard [lateGain, earlyLoss] = ofPairs .standard [earlyLoss, lateGain] := by
  have arranged := List.Perm.swap earlyLoss lateGain []
  have rearranged : IsRearranged [earlyLoss, lateGain] [lateGain, earlyLoss] := by
    apply Rearranged.swap _ [] []
    decide
  have alike := ofPairs_of_perm .standard arranged
  exact ⟨arranged, alike.1, rearranged, alike.2 rearranged⟩

end GroupedReport

end SignalReplay
