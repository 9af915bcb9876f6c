import SignalReplay.Metrics.Corpus
import SignalReplay.Partition
import SignalReplay.Report.GroupKey
import SignalReplay.Report.Pairing

/-!
Reports by group: the figures of all outcomes, and those of each group of signals. Outcomes are
put in the order of their signals' timestamps first, since drawdown and streaks depend on it, and
groups are ranked by what they earned.
-/

namespace SignalReplay

structure GroupRow where
  key : GroupKey
  metrics : CorpusMetrics

namespace GroupRow

def ofClass (edges : HistogramEdges) (group : GroupKey × List TaggedSignal) : GroupRow where
  key := group.1
  metrics := .ofOutcomes edges (group.2.map (·.outcome))

/-- Higher expectancy ranks first, then the larger group, then the lesser key. Expectancies are
compared unrounded and in the total order of quantities, where negative zero lies below zero. -/
def compareRank (left right : GroupRow) : Ordering :=
  (compare right.metrics.expectancy.totalOrderKey left.metrics.expectancy.totalOrderKey).then <|
    (compare right.metrics.sampleSize left.metrics.sampleSize).then <|
    compare left.key right.key

def ranksNoLater (left right : GroupRow) : Bool :=
  (compareRank left right).isLE

def rounded (row : GroupRow) (decimals : UInt32) : GroupRow :=
  { row with metrics := row.metrics.rounded decimals }

end GroupRow

structure GroupedReport where
  overall : CorpusMetrics
  /-- In the order of their rank. -/
  groups : List GroupRow

namespace GroupedReport

def rankedRows (edges : HistogramEdges) (ordered : List TaggedSignal) : List GroupRow :=
  ((Partition.classes (fun pair => GroupKey.ofSignal pair.signal) ordered).map
    (GroupRow.ofClass edges)).mergeSort GroupRow.ranksNoLater

def ofPairs (edges : HistogramEdges) (pairs : List TaggedSignal) : GroupedReport :=
  let ordered := pairs.mergeSort TaggedSignal.notLater
  { overall := .ofOutcomes edges (ordered.map (·.outcome))
    groups := rankedRows edges ordered }

def rounded (report : GroupedReport) (decimals : UInt32) : GroupedReport where
  overall := report.overall.rounded decimals
  groups := report.groups.map (·.rounded decimals)

end GroupedReport

end SignalReplay
