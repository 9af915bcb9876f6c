import SignalReplay.Metrics.Summary
import SignalReplay.Proofs.Metrics.Multiples
import SignalReplay.Proofs.Partition
import SignalReplay.Proofs.Sorting

/-!
Summaries by key. Each key that occurs has the summary of its own outcomes, in the order in which
they come, and every evaluable outcome counts in one of the summaries.
-/

namespace SignalReplay

open Std

variable {κ : Type} [Ord κ] {keyOf : Outcome → κ} {outcomes : List Outcome}
  {groups others : List (κ × GroupSummary)}

/-- Summaries whose keys rise and are those that occur, each of the outcomes with its key. -/
structure Summarizes [DecidableEq κ] (keyOf : Outcome → κ) (outcomes : List Outcome)
    (groups : List (κ × GroupSummary)) : Prop where
  rising : (groups.map Prod.fst).Pairwise fun left right => compare left right = .lt
  mem_keys : ∀ key, key ∈ groups.map Prod.fst ↔ ∃ outcome ∈ outcomes, keyOf outcome = key
  summary : ∀ group ∈ groups,
    group.2 = .ofOutcomes (outcomes.filter fun outcome => keyOf outcome = group.1)

theorem keys_summarize (keyOf : Outcome → κ) (outcomes : List Outcome) :
    (summarize keyOf outcomes).map Prod.fst =
      (Partition.classes keyOf outcomes).map Prod.fst := by
  rw [summarize, List.map_map]
  rfl

theorem summarizes_summarize [DecidableEq κ] [TransOrd κ] [LawfulEqOrd κ] (keyOf : Outcome → κ)
    (outcomes : List Outcome) : Summarizes keyOf outcomes (summarize keyOf outcomes) where
  rising := by
    rw [keys_summarize, List.pairwise_map]
    exact Partition.rising_classes keyOf outcomes
  mem_keys key := by
    rw [keys_summarize, Partition.mem_keys_classes]
  summary group found := by
    rcases List.mem_map.mp found with ⟨⟨key, members⟩, member, rfl⟩
    exact congrArg GroupSummary.ofOutcomes (Partition.eq_filter_of_mem_classes member)

theorem Summarizes.eq_map [DecidableEq κ] (summarizes : Summarizes keyOf outcomes groups) :
    groups = (groups.map Prod.fst).map fun key =>
      (key, .ofOutcomes (outcomes.filter fun outcome => keyOf outcome = key)) := by
  rw [List.map_map]
  conv_lhs => rw [← List.map_id groups]
  apply List.map_congr_left
  intro group found
  exact Prod.ext rfl (summarizes.summary group found)

theorem Summarizes.unique [DecidableEq κ] [TransOrd κ]
    (summarizes : Summarizes keyOf outcomes groups)
    (otherSummarizes : Summarizes keyOf outcomes others) : others = groups := by
  have keys : others.map Prod.fst = groups.map Prod.fst := by
    refine Sorting.eq_of_pairwise_before ?_ summarizes.rising otherSummarizes.rising ?_
    · intro left _ right _ less greater
      rw [OrientedCmp.gt_of_lt less] at greater
      cases greater
    · intro key
      rw [summarizes.mem_keys, otherSummarizes.mem_keys]
  rw [summarizes.eq_map, otherSummarizes.eq_map, keys]

theorem sum_count_summarize (keyOf : Outcome → κ) (outcomes : List Outcome) :
    ((summarize keyOf outcomes).map (·.2.count)).sum = (Metrics.distribution outcomes).length := by
  rw [summarize, List.map_map, Metrics.length_distribution]
  exact Partition.sum_classes (Partition.additive_countP (·.isEvaluable)) keyOf outcomes

/-- Summaries by a key that is totally ordered are the summaries of the outcomes of each key that
occurs, in rising order of the keys, and nothing else is. Their counts add up to the length of the
distribution of all outcomes. -/
theorem summarize_partitions [DecidableEq κ] [TransOrd κ] [LawfulEqOrd κ] (keyOf : Outcome → κ)
    (outcomes : List Outcome) :
    (∀ groups, summarize keyOf outcomes = groups ↔ Summarizes keyOf outcomes groups) ∧
      ((summarize keyOf outcomes).map (·.2.count)).sum =
        (Metrics.distribution outcomes).length := by
  have summarizes := summarizes_summarize keyOf outcomes
  refine ⟨fun groups => ⟨?_, fun other => other.unique summarizes⟩,
    sum_count_summarize keyOf outcomes⟩
  rintro rfl
  exact summarizes

def Outcome.labelled (id : String) (label : OutcomeLabel) (multiple : Option Float) : Outcome :=
  ⟨id, label, multiple.map .ofFloat, none, none, none, none⟩

def recurringOutcomes : List Outcome := [
  .labelled "b" .win (some 2.0),
  .labelled "a" .unknown (some 1.0),
  .labelled "b" .breakEven (some 0.0)]

theorem summarize_partitions_by_id :
    TransOrd String ∧ LawfulEqOrd String ∧
      Summarizes (·.signalId) recurringOutcomes (summarize (·.signalId) recurringOutcomes) ∧
      ((summarize (·.signalId) recurringOutcomes).map fun group => (group.1, group.2.count)) =
        [("a", 0), ("b", 2)] ∧
      (Metrics.distribution recurringOutcomes).length = 2 := by
  rcases summarize_partitions (·.signalId) recurringOutcomes with ⟨groups, counts⟩
  refine ⟨inferInstance, inferInstance, (groups _).mp rfl, by decide +kernel, ?_⟩
  rw [← counts]
  decide +kernel

end SignalReplay
