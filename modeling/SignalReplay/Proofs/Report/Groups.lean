import SignalReplay.Proofs.Partition
import SignalReplay.Report.Groups

/-!
The rows of a report. There is one for each key among the signals, and it has the figures of the
outcomes whose signals have that key.
-/

namespace SignalReplay

open Std

/-! ## Keys -/

instance : TransOrd Direction where
  eq_swap {left right} := by cases left <;> cases right <;> rfl
  isLE_trans {left middle right} := by cases left <;> cases middle <;> cases right <;> decide

instance : LawfulEqOrd Direction where
  compare_self {direction} := by cases direction <;> rfl
  eq_of_compare {left right} := by cases left <;> cases right <;> decide

namespace GroupKey

theorem compare_eq_compareLex : (compare : GroupKey → GroupKey → Ordering) =
    compareLex (compareOn symbol) (compareLex (compareOn timeframe) (compareLex
      (compareOn session) (compareLex (compareOn kind) (compareOn direction)))) := rfl

instance : TransOrd GroupKey := by
  unfold TransOrd
  rw [compare_eq_compareLex]
  infer_instance

instance : LawfulEqOrd GroupKey where
  compare_self := ReflCmp.compare_self
  eq_of_compare {left right} equal := by
    rcases Ordering.then_eq_eq.mp equal with ⟨symbols, equal⟩
    rcases Ordering.then_eq_eq.mp equal with ⟨timeframes, equal⟩
    rcases Ordering.then_eq_eq.mp equal with ⟨sessions, equal⟩
    rcases Ordering.then_eq_eq.mp equal with ⟨kinds, directions⟩
    cases left
    cases right
    congr
    · exact LawfulEqOrd.eq_of_compare symbols
    · exact LawfulEqOrd.eq_of_compare timeframes
    · exact LawfulEqOrd.eq_of_compare sessions
    · exact LawfulEqOrd.eq_of_compare kinds
    · exact LawfulEqOrd.eq_of_compare directions

end GroupKey

/-! ## Rows -/

namespace GroupedReport

variable {edges : HistogramEdges} {ordered : List TaggedSignal}

theorem keys_rankedRows_perm :
    ((rankedRows edges ordered).map (·.key)).Perm
      ((Partition.classes (fun pair => GroupKey.ofSignal pair.signal) ordered).map Prod.fst) := by
  have ranked := (List.mergeSort_perm ((Partition.classes
    (fun pair => GroupKey.ofSignal pair.signal) ordered).map (GroupRow.ofClass edges))
    GroupRow.ranksNoLater).map (·.key)
  rwa [List.map_map] at ranked

theorem nodup_keys_rankedRows : ((rankedRows edges ordered).map (·.key)).Nodup :=
  keys_rankedRows_perm.nodup_iff.mpr (Partition.nodup_keys_classes _ _)

@[simp]
theorem mem_keys_rankedRows {key : GroupKey} :
    key ∈ (rankedRows edges ordered).map (·.key) ↔
      ∃ pair ∈ ordered, GroupKey.ofSignal pair.signal = key := by
  rw [keys_rankedRows_perm.mem_iff, Partition.mem_keys_classes]

theorem metrics_of_mem_rankedRows {row : GroupRow} (found : row ∈ rankedRows edges ordered) :
    row.metrics = .ofOutcomes edges
      ((ordered.filter fun pair => GroupKey.ofSignal pair.signal = row.key).map (·.outcome)) := by
  rw [rankedRows, List.mem_mergeSort, List.mem_map] at found
  rcases found with ⟨⟨key, members⟩, member, equal⟩
  subst equal
  have filtered := Partition.eq_filter_of_mem_classes member
  subst filtered
  rfl

end GroupedReport

def TaggedSignal.sample (symbol : String) (timestamp : Instant) (multiple : Float) :
    TaggedSignal where
  signal :=
    { id := "", timestamp := timestamp, symbol := symbol, timeframe := "M5", direction := .long,
      kind := none, entry := .ofFloat 100.0, stop := .ofFloat 99.0, target := .ofFloat 102.0,
      session := none, notes := [] }
  outcome :=
    { signalId := "", label := if 0 < multiple then .win else .loss,
      rMultiple := some (.ofFloat multiple), adverse := none, favourable := none,
      exitPrice := none, exitTime := none }

end SignalReplay
