import SignalReplay.Proofs.Binary64.TotalOrder
import SignalReplay.Proofs.Report.Groups
import SignalReplay.Proofs.Sorting
import SignalReplay.Proofs.Text.ByteOrder

/-!
The rank of the rows of a report. No two rows share a key, so one of any two ranks before the other,
and the rows of a report can stand in one order only.
-/

namespace SignalReplay

open Std

/-! ## Keys -/

namespace GroupKey

/-- A missing text comes before all others, which go by their bytes. -/
inductive TextBefore : Option String → Option String → Prop
  | absent (text : String) : TextBefore none (some text)
  | bytes {left right : String} (less : Utf8.encode left < Utf8.encode right) :
      TextBefore (some left) (some right)

/-- Which of two keys comes first: the one that does so in the first field in which they differ. -/
inductive IsBefore (left right : GroupKey) : Prop
  | symbol (before : TextBefore (some left.symbol) (some right.symbol)) : IsBefore left right
  | timeframe (sameSymbol : left.symbol = right.symbol)
      (before : TextBefore (some left.timeframe) (some right.timeframe)) : IsBefore left right
  | session (sameSymbol : left.symbol = right.symbol)
      (sameTimeframe : left.timeframe = right.timeframe)
      (before : TextBefore left.session right.session) : IsBefore left right
  | kind (sameSymbol : left.symbol = right.symbol)
      (sameTimeframe : left.timeframe = right.timeframe)
      (sameSession : left.session = right.session) (before : TextBefore left.kind right.kind) :
      IsBefore left right
  | direction (sameSymbol : left.symbol = right.symbol)
      (sameTimeframe : left.timeframe = right.timeframe)
      (sameSession : left.session = right.session) (sameKind : left.kind = right.kind)
      (long : left.direction = .long) (short : right.direction = .short) : IsBefore left right

variable {left right : GroupKey}

theorem compare_text_eq_lt_iff {left right : String} :
    compare left right = .lt ↔ TextBefore (some left) (some right) := by
  have bytes : compare left right = .lt ↔ Utf8.encode left < Utf8.encode right :=
    compare_lt_iff_lt.trans Utf8.encode_lt_iff.symm
  rw [bytes]
  constructor
  · exact .bytes
  · intro before
    cases before with
    | bytes less => exact less

theorem compare_optional_eq_lt_iff {left right : Option String} :
    compare left right = .lt ↔ TextBefore left right := by
  cases left with
  | none =>
      cases right with
      | none => exact ⟨nofun, nofun⟩
      | some right => exact ⟨fun _ => .absent right, fun _ => rfl⟩
  | some left =>
      cases right with
      | none => exact ⟨nofun, nofun⟩
      | some right => exact compare_text_eq_lt_iff

theorem compare_direction_eq_lt_iff {left right : Direction} :
    compare left right = .lt ↔ left = .long ∧ right = .short := by
  cases left <;> cases right <;> decide

theorem compare_eq_lt_iff : compare left right = .lt ↔ left.IsBefore right := by
  have fields : compare left right = .lt ↔
      (compare left.symbol right.symbol).then ((compare left.timeframe right.timeframe).then
        ((compare left.session right.session).then ((compare left.kind right.kind).then
          (compare left.direction right.direction)))) = .lt := Iff.rfl
  rw [fields]
  simp only [Ordering.then_eq_lt, LawfulEqCmp.compare_eq_iff_eq, compare_text_eq_lt_iff,
    compare_optional_eq_lt_iff, compare_direction_eq_lt_iff]
  constructor
  · rintro (before | ⟨symbol, before | ⟨timeframe, before | ⟨session, before | ⟨kind, long, short⟩⟩⟩⟩)
    · exact .symbol before
    · exact .timeframe symbol before
    · exact .session symbol timeframe before
    · exact .kind symbol timeframe session before
    · exact .direction symbol timeframe session kind long short
  · intro before
    cases before with
    | symbol before => exact .inl before
    | timeframe symbol before => exact .inr ⟨symbol, .inl before⟩
    | session symbol timeframe before => exact .inr ⟨symbol, .inr ⟨timeframe, .inl before⟩⟩
    | kind symbol timeframe session before =>
        exact .inr ⟨symbol, .inr ⟨timeframe, .inr ⟨session, .inl before⟩⟩⟩
    | direction symbol timeframe session kind long short =>
        exact .inr ⟨symbol, .inr ⟨timeframe, .inr ⟨session, .inr ⟨kind, long, short⟩⟩⟩⟩

end GroupKey

/-! ## Rows -/

namespace GroupRow

/-- Which of two rows ranks first: the one that earned more, of equal ones the one with more
outcomes, and of these the one whose key comes first. -/
inductive RanksBefore (left right : GroupRow) : Prop
  | expectancy
      (above : Binary64.IsBelow right.metrics.expectancy.value left.metrics.expectancy.value) :
      RanksBefore left right
  | size (sameExpectancy : left.metrics.expectancy.value = right.metrics.expectancy.value)
      (larger : right.metrics.sampleSize < left.metrics.sampleSize) : RanksBefore left right
  | key (sameExpectancy : left.metrics.expectancy.value = right.metrics.expectancy.value)
      (sameSize : left.metrics.sampleSize = right.metrics.sampleSize)
      (before : left.key.IsBefore right.key) : RanksBefore left right

def IsDefined (row : GroupRow) : Prop :=
  row.metrics.expectancy.value.isNaN = false

variable {left right : GroupRow}

theorem compareRank_eq_compareLex : compareRank =
    compareLex (fun left right => compareOn (·.metrics.expectancy.totalOrderKey) right left)
      (compareLex (fun left right => compareOn (·.metrics.sampleSize) right left)
        (compareOn (·.key))) := rfl

instance : TransCmp compareRank := by
  have expectancies : TransCmp fun left right : GroupRow =>
    compareOn (·.metrics.expectancy.totalOrderKey) right left := .opposite
  have sizes : TransCmp fun left right : GroupRow =>
    compareOn (·.metrics.sampleSize) right left := .opposite
  rw [compareRank_eq_compareLex]
  infer_instance

theorem compareRank_eq_lt_iff (leftDefined : left.IsDefined) (rightDefined : right.IsDefined) :
    left.compareRank right = .lt ↔ left.RanksBefore right := by
  have expectancies : left.metrics.expectancy.totalOrderKey =
      right.metrics.expectancy.totalOrderKey ↔
        left.metrics.expectancy.value = right.metrics.expectancy.value := by
    refine ⟨Quantity.value_eq_of_totalOrderKey_eq leftDefined rightDefined, fun equal => ?_⟩
    rw [Quantity.totalOrderKey_of_defined leftDefined,
      Quantity.totalOrderKey_of_defined rightDefined, equal]
  simp only [compareRank, Ordering.then_eq_lt, Int.compare_eq_lt, Int.compare_eq_eq,
    Nat.compare_eq_lt, Nat.compare_eq_eq, GroupKey.compare_eq_lt_iff,
    Quantity.totalOrderKey_lt_iff rightDefined leftDefined]
  rw [eq_comm, expectancies]
  constructor
  · rintro (above | ⟨expectancy, larger | ⟨size, before⟩⟩)
    · exact .expectancy above
    · exact .size expectancy larger
    · exact .key expectancy size.symm before
  · intro ranks
    cases ranks with
    | expectancy above => exact .inl above
    | size expectancy larger => exact .inr ⟨expectancy, .inl larger⟩
    | key expectancy size before => exact .inr ⟨expectancy, .inr ⟨size.symm, before⟩⟩

theorem RanksBefore.asymm (leftDefined : left.IsDefined) (rightDefined : right.IsDefined)
    (ranks : left.RanksBefore right) : ¬ right.RanksBefore left := by
  intro otherRanks
  rw [← compareRank_eq_lt_iff rightDefined leftDefined] at otherRanks
  rw [← compareRank_eq_lt_iff leftDefined rightDefined, OrientedCmp.gt_of_lt otherRanks] at ranks
  cases ranks

end GroupRow

/-! ## Reports -/

namespace GroupedReport

variable {edges : HistogramEdges} {ordered : List TaggedSignal} {rows others : List GroupRow}

theorem pairwise_compareRank : (rankedRows edges ordered).Pairwise fun left right =>
    left.compareRank right = .lt := by
  have trans (left middle right : GroupRow) (first : left.ranksNoLater middle = true)
      (second : middle.ranksNoLater right = true) : left.ranksNoLater right = true :=
    TransCmp.isLE_trans first second
  have total (left right : GroupRow) :
      (left.ranksNoLater right || right.ranksNoLater left) = true := by
    have swapped : right.compareRank left = (left.compareRank right).swap := OrientedCmp.eq_swap
    rw [GroupRow.ranksNoLater, GroupRow.ranksNoLater, swapped]
    cases left.compareRank right <;> decide
  have sorted : (rankedRows edges ordered).Pairwise fun left right =>
      left.ranksNoLater right = true := List.pairwise_mergeSort trans total _
  have distinct : (rankedRows edges ordered).Pairwise fun left right => left.key ≠ right.key :=
    List.pairwise_map.mp nodup_keys_rankedRows
  refine (sorted.and distinct).imp ?_
  rintro left right ⟨noLater, differ⟩
  cases ranked : left.compareRank right with
  | lt => rfl
  | eq =>
      have keys := (Ordering.then_eq_eq.mp (Ordering.then_eq_eq.mp ranked).2).2
      exact absurd (LawfulEqOrd.eq_of_compare keys) differ
  | gt =>
      rw [GroupRow.ranksNoLater, ranked] at noLater
      cases noLater

theorem pairwise_ranksBefore (defined : ∀ row ∈ rankedRows edges ordered, row.IsDefined) :
    (rankedRows edges ordered).Pairwise GroupRow.RanksBefore :=
  pairwise_compareRank.imp_of_mem fun leftFound rightFound ranked =>
    (GroupRow.compareRank_eq_lt_iff (defined _ leftFound) (defined _ rightFound)).mp ranked

theorem eq_of_pairwise_ranksBefore (defined : ∀ row ∈ rows, row.IsDefined)
    (ranked : rows.Pairwise GroupRow.RanksBefore)
    (otherRanked : others.Pairwise GroupRow.RanksBefore)
    (same : ∀ row, row ∈ others ↔ row ∈ rows) : others = rows := by
  refine Sorting.eq_of_pairwise_before ?_ ranked otherRanked same
  intro left leftFound right rightFound ranks
  exact ranks.asymm (defined left leftFound) (defined right rightFound)

/-- Where every group has a number for its expectancy, each row of a report ranks before the rows
after it, so that the rows can stand in no other order. Rounding leaves each row in its place. -/
theorem ofPairs_ranked (edges : HistogramEdges) (pairs : List TaggedSignal)
    (defined : ∀ row ∈ (ofPairs edges pairs).groups, row.IsDefined) :
    (ofPairs edges pairs).groups.Pairwise GroupRow.RanksBefore ∧
      (∀ rows : List GroupRow, (∀ row, row ∈ rows ↔ row ∈ (ofPairs edges pairs).groups) →
        rows.Pairwise GroupRow.RanksBefore → rows = (ofPairs edges pairs).groups) ∧
      ∀ decimals, List.Forall₂
        (fun row shown => shown.key = row.key ∧ shown.metrics = row.metrics.rounded decimals)
        (ofPairs edges pairs).groups ((ofPairs edges pairs).rounded decimals).groups := by
  have ranked : (ofPairs edges pairs).groups.Pairwise GroupRow.RanksBefore :=
    pairwise_ranksBefore defined
  refine ⟨ranked, fun rows same otherRanked => ?_, fun decimals => ?_⟩
  · exact eq_of_pairwise_ranksBefore defined ranked otherRanked same
  · rw [rounded, List.forall₂_map_right_iff]
    exact List.forall₂_same.mpr fun row _ => ⟨rfl, rfl⟩

def trades : List TaggedSignal :=
  let opened := (Instant.ofMicros? 1704186900000000).get (by decide)
  [.sample "AUDUSD" opened (-0.0), .sample "GBPUSD" opened 0.0, .sample "USDJPY" opened 0.0,
    .sample "EURUSD" opened 0.0, .sample "USDJPY" opened 0.0]

theorem ofPairs_ranked_zeros :
    (∀ row ∈ (ofPairs .standard trades).groups, row.IsDefined) ∧
      (ofPairs .standard trades).groups.Pairwise GroupRow.RanksBefore := by
  have inOrder : trades.mergeSort TaggedSignal.notLater = trades :=
    List.mergeSort_of_pairwise (by decide)
  have rows : ∀ row ∈ (Partition.classes (fun pair => GroupKey.ofSignal pair.signal) trades).map
      (GroupRow.ofClass .standard), row.metrics.expectancy.value.isNaN = false := by
    decide +kernel
  have defined : ∀ row ∈ (ofPairs .standard trades).groups, row.IsDefined := by
    intro row found
    rw [ofPairs, inOrder, rankedRows, List.mem_mergeSort] at found
    exact rows row found
  exact ⟨defined, (ofPairs_ranked .standard trades defined).1⟩

end GroupedReport

end SignalReplay
