import SignalReplay.Proofs.Report.Pairing

/-!
Pairing as a join. Looking every outcome up in an index gives the same pairs as going through the
signals from the front for each outcome: one pair with the first signal that has its identifier, or
none if no signal has it.
-/

namespace SignalReplay

structure IsFirstWith (id : String) (signals : List Signal) (signal : Signal) : Prop where
  has_id : signal.id = id
  first : ∃ before after, signals = before ++ signal :: after ∧ ∀ other ∈ before, other.id ≠ id

def Outcome.IsKnown (signals : List Signal) (outcome : Outcome) : Prop :=
  ∃ signal ∈ signals, signal.id = outcome.signalId

instance (signals : List Signal) (outcome : Outcome) : Decidable (outcome.IsKnown signals) :=
  inferInstanceAs (Decidable (∃ signal ∈ signals, signal.id = outcome.signalId))

/-- The join that goes through all signals for every outcome. -/
inductive Joins (signals : List Signal) : List Outcome → List TaggedSignal → Prop
  | nil : Joins signals [] []
  | paired {signal : Signal} {outcome : Outcome} {rest : List Outcome} {pairs : List TaggedSignal}
      (first : IsFirstWith outcome.signalId signals signal) (later : Joins signals rest pairs) :
      Joins signals (outcome :: rest) (⟨signal, outcome⟩ :: pairs)
  | leftOut {outcome : Outcome} {rest : List Outcome} {pairs : List TaggedSignal}
      (unknown : ¬ outcome.IsKnown signals) (later : Joins signals rest pairs) :
      Joins signals (outcome :: rest) pairs

variable {signals : List Signal} {outcomes : List Outcome} {pairs others : List TaggedSignal}
  {signal : Signal} {outcome : Outcome} {id : String}

/-! ## Signals found -/

theorem find?_id_eq_some_iff :
    (signals.find? fun other => other.id == id) = some signal ↔ IsFirstWith id signals signal := by
  rw [List.find?_eq_some_iff_append]
  constructor
  · rintro ⟨found, before, after, here, earlier⟩
    exact ⟨eq_of_beq found, before, after, here, fun other member => by
      simpa using earlier other member⟩
  · rintro ⟨found, before, after, here, earlier⟩
    exact ⟨beq_iff_eq.mpr found, before, after, here, fun other member => by
      simpa using earlier other member⟩

theorem find?_id_eq_none_iff :
    (signals.find? fun other => other.id == outcome.signalId) = none ↔
      ¬ outcome.IsKnown signals := by
  simp [List.find?_eq_none, Outcome.IsKnown]

theorem IsFirstWith.isKnown (first : IsFirstWith outcome.signalId signals signal) :
    outcome.IsKnown signals := by
  rcases first with ⟨found, before, after, here, _⟩
  exact ⟨signal, by simp [here], found⟩

theorem IsFirstWith.unique {left right : Signal} (isLeft : IsFirstWith id signals left)
    (isRight : IsFirstWith id signals right) : left = right := by
  rw [← find?_id_eq_some_iff] at isLeft isRight
  exact Option.some.inj (isLeft.symm.trans isRight)

/-! ## Joins -/

theorem joins_pairOutcomes (signals : List Signal) (outcomes : List Outcome) :
    Joins signals outcomes (pairOutcomes signals outcomes) := by
  unfold pairOutcomes
  induction outcomes with
  | nil => exact .nil
  | cons outcome rest induction =>
      rw [List.filterMap_cons, get?_ofList]
      cases found : signals.find? fun other => other.id == outcome.signalId with
      | none => exact .leftOut (find?_id_eq_none_iff.mp found) induction
      | some signal => exact .paired (find?_id_eq_some_iff.mp found) induction

theorem Joins.unique (joins : Joins signals outcomes pairs)
    (otherJoins : Joins signals outcomes others) : pairs = others := by
  induction joins generalizing others with
  | nil =>
      cases otherJoins
      rfl
  | paired first _ induction =>
      cases otherJoins with
      | paired otherFirst later => rw [first.unique otherFirst, induction later]
      | leftOut unknown _ => exact absurd first.isKnown unknown
  | leftOut unknown _ induction =>
      cases otherJoins with
      | paired otherFirst _ => exact absurd otherFirst.isKnown unknown
      | leftOut _ later => exact induction later

theorem Joins.map_outcome (joins : Joins signals outcomes pairs) :
    pairs.map (·.outcome) = outcomes.filter fun outcome => outcome.IsKnown signals := by
  induction joins with
  | nil => rfl
  | paired first _ induction =>
      rw [List.map_cons, induction, List.filter_cons_of_pos (by simpa using first.isKnown)]
  | leftOut unknown _ induction =>
      rw [induction, List.filter_cons_of_neg (by simpa using unknown)]

/-- Pairing by an index is the join that goes through all signals. It keeps the outcomes whose
identifier a signal has, each once and in their order. -/
theorem pairOutcomes_joins (signals : List Signal) (outcomes : List Outcome) :
    (∀ pairs, pairOutcomes signals outcomes = pairs ↔ Joins signals outcomes pairs) ∧
      (pairOutcomes signals outcomes).map (·.outcome) =
        (outcomes.filter fun outcome => outcome.IsKnown signals) ∧
      ((pairOutcomes signals outcomes).map (·.outcome)).Sublist outcomes ∧
      (pairOutcomes signals outcomes).length =
        outcomes.countP fun outcome => outcome.IsKnown signals := by
  have joins := joins_pairOutcomes signals outcomes
  have kept := joins.map_outcome
  refine ⟨fun pairs => ⟨?_, joins.unique⟩, kept, ?_, ?_⟩
  · rintro rfl
    exact joins
  · rw [kept]
    exact List.filter_sublist
  · rw [← List.length_map, kept, List.countP_eq_length_filter]

end SignalReplay
