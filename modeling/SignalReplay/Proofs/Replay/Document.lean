import SignalReplay.Proofs.Json.Pretty
import SignalReplay.Proofs.Json.Record
import SignalReplay.Replay.Document

/-!
Documents read back. A document gives its report back exactly if all the figures that it must give
are finite; a figure that may be missing is lost if it is not.
-/

namespace SignalReplay

open Json Json.Reader

@[simp]
theorem Direction.reader_node (direction : Direction) :
    Direction.reader direction.toJson.node = some direction := by
  cases direction <;> rfl

@[simp]
theorem TieBreak.reader_node (tieBreak : TieBreak) :
    TieBreak.reader tieBreak.toJson.node = some tieBreak := by
  cases tieBreak
  rfl

/-! ## Figures -/

namespace Bucket

theorem reader_node {bucket : Bucket} (fits : bucket.count < unsignedBound) :
    reader bucket.toJson.node = some bucket := by
  rcases Record.read?_node fields (show bucket.toJson = .object _ from rfl) rfl rfl with
    ⟨record, read, held⟩
  simp only [List.forall_mem_cons] at held
  simp [reader, read, Record.required, held, Reader.count_node fits]

end Bucket

namespace CorpusMetrics

def requiredFigures (metrics : CorpusMetrics) : List Float :=
  [metrics.winRate, metrics.lossRate, metrics.breakEvenRate, metrics.expectancy.value,
    metrics.profitFactor, metrics.averageR, metrics.maxDrawdown]

def counts (metrics : CorpusMetrics) : List Nat :=
  [metrics.sampleSize, metrics.completed, metrics.unknown, metrics.wins, metrics.losses,
    metrics.breakEven, metrics.maxWinStreak, metrics.maxLossStreak] ++
    metrics.histogram.map (·.count)

/-- What a document keeps of figures: those that may be missing are lost if they are not finite. -/
def stored (metrics : CorpusMetrics) : CorpusMetrics :=
  { metrics with
    maxR := metrics.maxR.filter Float.isFinite
    minR := metrics.minR.filter Float.isFinite
    averageAdverse := metrics.averageAdverse.filter Float.isFinite
    averageFavourable := metrics.averageFavourable.filter Float.isFinite }

theorem reader_node_eq_some_iff {metrics found : CorpusMetrics}
    (fits : ∀ count ∈ metrics.counts, count < unsignedBound) :
    reader metrics.toJson.node = some found ↔
      (∀ figure ∈ metrics.requiredFigures, figure.isFinite = true) ∧ found = metrics.stored := by
  simp only [counts, List.forall_mem_append, List.forall_mem_cons] at fits
  have histogram : Reader.list Bucket.reader
      (Value.array (metrics.histogram.map Bucket.toJson)).node = some metrics.histogram :=
    Reader.list_node fun bucket member => Bucket.reader_node (fits.2 _ (List.mem_map_of_mem member))
  rcases Record.read?_node fields (show metrics.toJson = .object _ from rfl) rfl rfl with
    ⟨record, read, held⟩
  simp only [List.forall_mem_cons] at held
  unfold reader
  simp only [↓bind_eq_some_iff, read, Record.required, Record.nullable, held, histogram,
    Reader.count_node, fits, Reader.real_node_eq_some_iff, Reader.quantity_node_eq_some_iff,
    Reader.orNull_real, Option.some.injEq, exists_eq_left', and_assoc, exists_and_left,
    exists_eq_left, pure_eq_some_iff, requiredFigures, List.forall_mem_cons, List.not_mem_nil,
    false_implies, implies_true, true_and, stored]

end CorpusMetrics

/-! ## Rows and reports -/

@[simp]
theorem GroupKey.reader_node (key : GroupKey) : GroupKey.reader key.toJson.node = some key := by
  rcases Record.read?_node fields (show key.toJson = .object _ from rfl) rfl rfl with
    ⟨record, read, held⟩
  simp only [List.forall_mem_cons] at held
  simp [reader, read, Record.required, Record.nullable, held]

namespace GroupRow

def stored (row : GroupRow) : GroupRow :=
  { row with metrics := row.metrics.stored }

theorem reader_node_eq_some_iff {row found : GroupRow}
    (fits : ∀ count ∈ row.metrics.counts, count < unsignedBound) :
    reader row.toJson.node = some found ↔
      (∀ figure ∈ row.metrics.requiredFigures, figure.isFinite = true) ∧ found = row.stored := by
  rcases Record.read?_node fields (show row.toJson = .object _ from rfl) rfl rfl with
    ⟨record, read, held⟩
  simp only [List.forall_mem_cons] at held
  unfold reader
  simp only [↓bind_eq_some_iff, read, Record.required, held, GroupKey.reader_node,
    CorpusMetrics.reader_node_eq_some_iff fits, Option.some.injEq, exists_eq_left', and_assoc,
    exists_and_left, exists_eq_left, pure_eq_some_iff, stored]

end GroupRow

namespace GroupedReport

def requiredFigures (report : GroupedReport) : List Float :=
  report.overall.requiredFigures ++ report.groups.flatMap (·.metrics.requiredFigures)

def counts (report : GroupedReport) : List Nat :=
  report.overall.counts ++ report.groups.flatMap (·.metrics.counts)

def stored (report : GroupedReport) : GroupedReport where
  overall := report.overall.stored
  groups := report.groups.map GroupRow.stored

@[simp]
theorem counts_rounded (report : GroupedReport) (decimals : UInt32) :
    (report.rounded decimals).counts = report.counts := by
  rw [counts, rounded, List.flatMap_map]
  rfl

end GroupedReport

/-! ## Replays -/

namespace Replay

/-- Everything that is counted. A count is a word of 64 bits, and so it is read. -/
def counts (replay : Replay) : List Nat :=
  replay.candleCount :: replay.signalCount :: replay.report.counts

theorem reader_node_eq_some_iff {replay found : Replay} (known : replay.version < versionBound)
    (fits : ∀ count ∈ replay.counts, count < unsignedBound) :
    reader replay.toJson.node = some found ↔
      (∀ figure ∈ replay.report.requiredFigures, figure.isFinite = true) ∧
        found = { replay with report := replay.report.stored, outcomes := [] } := by
  rcases Record.read?_node fields (show replay.toJson = .object _ from rfl) rfl rfl with
    ⟨record, read, held⟩
  simp only [List.forall_mem_cons] at held
  simp only [counts, GroupedReport.counts, List.forall_mem_cons, List.forall_mem_append,
    List.forall_mem_flatMap] at fits
  rcases fits with ⟨candleCount, signalCount, overall, groups⟩
  have version := below_node known (show versionBound ≤ unsignedBound by decide)
  have rows (found : List GroupRow) :
      Reader.list GroupRow.reader (Value.array (replay.report.groups.map GroupRow.toJson)).node =
          some found ↔
        (∀ row ∈ replay.report.groups, ∀ figure ∈ row.metrics.requiredFigures,
          figure.isFinite = true) ∧ found = replay.report.groups.map GroupRow.stored :=
    list_node_eq_some_iff fun row member _ => GroupRow.reader_node_eq_some_iff (groups row member)
  unfold reader
  simp only [↓bind_eq_some_iff, read, Record.required, Record.orDefault, held, version,
    count_node, text_node, candleCount, signalCount, TieBreak.reader_node,
    CorpusMetrics.reader_node_eq_some_iff overall, rows, Option.some.injEq, exists_eq_left',
    and_assoc, exists_and_left, exists_eq_left, pure_eq_some_iff, true_and,
    GroupedReport.requiredFigures, List.forall_mem_append, List.forall_mem_flatMap]
  constructor
  · rintro ⟨overallFinite, rowsFinite, tieBreak, rfl⟩
    exact ⟨overallFinite, rowsFinite, rfl⟩
  · rintro ⟨overallFinite, rowsFinite, rfl⟩
    exact ⟨overallFinite, rowsFinite, replay.tieBreak, rfl⟩

theorem ofDocument_document {replay : Replay} (current : replay.version ≤ currentVersion)
    (fits : ∀ count ∈ replay.counts, count < unsignedBound) :
    let rounded := replay.rounded documentDecimals
    ofDocument replay.document =
      if ∀ figure ∈ rounded.report.requiredFigures, figure.isFinite = true then
        .ok { rounded with report := rounded.report.stored, outcomes := [] }
      else .error .malformed := by
  intro rounded
  have known : rounded.version < versionBound := Nat.lt_of_le_of_lt current (by decide)
  have countsFit : ∀ count ∈ rounded.counts, count < unsignedBound := by
    have kept := replay.report.counts_rounded documentDecimals
    rw [counts, show rounded.report.counts = replay.report.counts from kept]
    exact fits
  have read (found : Replay) : reader rounded.toJson.node = some found ↔ _ :=
    reader_node_eq_some_iff known countsFit
  rw [ofDocument, document, Value.ofText?_pretty, Option.bind_some]
  by_cases finite : ∀ figure ∈ rounded.report.requiredFigures, figure.isFinite = true
  · rw [if_pos finite, (read _).mpr ⟨finite, rfl⟩]
    exact if_neg (Nat.not_lt.mpr current)
  · rw [if_neg finite]
    cases found : reader rounded.toJson.node with
    | none => rfl
    | some document => exact absurd ((read document).mp found).1 finite

end Replay

end SignalReplay
