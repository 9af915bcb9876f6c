import Mathlib.Data.List.Basic
import SignalReplay.Metrics.Basic

/-!
R-multiples counted by their outcomes. What is counted among the R-multiples that are present is
counted among the outcomes that have one.
-/

namespace SignalReplay

def Outcome.multipleIs (test : Float → Bool) (outcome : Outcome) : Bool :=
  (outcome.rMultiple.map fun r => test r.value).getD false

namespace Metrics

@[simp]
theorem map_value_filterMap (outcomes : List Outcome) :
    (outcomes.filterMap (·.rMultiple)).map (·.value) = rMultiples outcomes :=
  List.map_filterMap ..

@[simp]
theorem rMultiples_append (earlier later : List Outcome) :
    rMultiples (earlier ++ later) = rMultiples earlier ++ rMultiples later :=
  List.filterMap_append

@[simp]
theorem countP_rMultiples (test : Float → Bool) (outcomes : List Outcome) :
    (rMultiples outcomes).countP test = outcomes.countP (·.multipleIs test) := by
  rw [rMultiples, List.countP_filterMap]
  simp only [Option.map_map]
  rfl

@[simp]
theorem length_rMultiples (outcomes : List Outcome) :
    (rMultiples outcomes).length = outcomes.countP (·.rMultiple.isSome) := by
  rw [rMultiples, List.length_filterMap_eq_countP]
  simp only [Option.isSome_map]

@[simp]
theorem length_distribution (outcomes : List Outcome) :
    (distribution outcomes).length = outcomes.countP (·.isEvaluable) := by
  rw [distribution, List.length_filterMap_eq_countP, List.countP_filter]
  apply List.countP_congr
  intro outcome _
  rw [Outcome.isEvaluable, Bool.and_eq_true, Bool.and_eq_true]
  exact ⟨And.right, fun evaluable => ⟨evaluable.2, evaluable⟩⟩

end Metrics

end SignalReplay
