import SignalReplay.Report.Pairing

/-!
Pairing. Looking up an identifier gives the first signal of the list that has it, so that outcomes
which were made signal by signal find their own signals again wherever the identifiers differ.
-/

namespace SignalReplay

theorem getElem?_foldl_insertIfNew (signals : List Signal) (index : SignalIndex) (id : String) :
    (signals.foldl (fun index signal => index.insertIfNew signal.id signal) index)[id]? =
      index[id]?.or (signals.find? fun signal => signal.id == id) := by
  induction signals generalizing index with
  | nil => exact Option.or_none.symm
  | cons signal rest induction =>
      rw [List.foldl_cons, induction, Std.HashMap.getElem?_insertIfNew, List.find?_cons]
      by_cases equal : (signal.id == id) = true
      · rw [equal]
        by_cases known : signal.id ∈ index
        · rw [if_neg fun fresh => fresh.2 known, ← eq_of_beq equal,
            Std.HashMap.getElem?_eq_some_getElem known]
          rfl
        · rw [if_pos ⟨rfl, known⟩, ← eq_of_beq equal, Std.HashMap.getElem?_eq_none known]
          rfl
      · rw [if_neg fun fresh => equal fresh.1, Bool.eq_false_iff.mpr equal]

@[simp]
theorem get?_ofList (signals : List Signal) (id : String) :
    (SignalIndex.ofList signals).get? id = signals.find? fun signal => signal.id == id := by
  rw [Std.HashMap.get?_eq_getElem?, SignalIndex.ofList, getElem?_foldl_insertIfNew,
    Std.HashMap.getElem?_empty, Option.none_or]

theorem find?_id_of_nodup {signals : List Signal} (distinct : (signals.map (·.id)).Nodup)
    {signal : Signal} (member : signal ∈ signals) :
    (signals.find? fun other => other.id == signal.id) = some signal := by
  induction signals with
  | nil => cases member
  | cons first rest induction =>
      rcases List.nodup_cons.mp distinct with ⟨fresh, restDistinct⟩
      rw [List.find?_cons]
      rcases List.mem_cons.mp member with equal | later
      · rw [equal, beq_self_eq_true]
      · have different : first.id ≠ signal.id := by
          intro equal
          exact fresh (List.mem_map.mpr ⟨signal, later, equal.symm⟩)
        rw [beq_eq_false_iff_ne.mpr different]
        exact induction restDistinct later

/-- An outcome is paired as soon as any signal has its identifier, so pairing drops none of these
and keeps their order. -/
theorem map_outcome_pairOutcomes {signals : List Signal} {outcomes : List Outcome}
    (known : ∀ outcome ∈ outcomes, ∃ signal ∈ signals, signal.id = outcome.signalId) :
    (pairOutcomes signals outcomes).map (·.outcome) = outcomes := by
  unfold pairOutcomes
  induction outcomes with
  | nil => rfl
  | cons outcome rest induction =>
      have found : ((SignalIndex.ofList signals).get? outcome.signalId).isSome := by
        rw [get?_ofList]
        simpa using known outcome List.mem_cons_self
      rcases Option.isSome_iff_exists.mp found with ⟨signal, equal⟩
      rw [List.filterMap_cons, equal, Option.map_some, List.map_cons,
        induction fun other member => known other (List.mem_cons_of_mem _ member)]

/-- The first signal of a list that has the identifier of a signal. -/
def Signal.namesake (signals : List Signal) (signal : Signal) : Signal :=
  (signals.find? fun other => other.id == signal.id).getD signal

theorem namesake_of_nodup {signals : List Signal} (distinct : (signals.map (·.id)).Nodup)
    {signal : Signal} (member : signal ∈ signals) : signal.namesake signals = signal := by
  rw [Signal.namesake, find?_id_of_nodup distinct member]
  rfl

theorem find?_id_of_mem {signals : List Signal} {signal : Signal} (member : signal ∈ signals) :
    (signals.find? fun other => other.id == signal.id) = some (signal.namesake signals) := by
  have known : (signals.find? fun other => other.id == signal.id).isSome :=
    List.find?_isSome.mpr ⟨signal, member, beq_self_eq_true signal.id⟩
  rcases Option.isSome_iff_exists.mp known with ⟨first, found⟩
  rw [Signal.namesake, found]
  rfl

theorem namesake_mem {signals : List Signal} {signal : Signal} (member : signal ∈ signals) :
    signal.namesake signals ∈ signals ∧ (signal.namesake signals).id = signal.id := by
  have found := find?_id_of_mem member
  have same : ((signal.namesake signals).id == signal.id) = true := by
    simpa using List.find?_some found
  exact ⟨List.mem_of_find?_eq_some found, eq_of_beq same⟩

/-- Outcomes made signal by signal are paired with the namesakes of their signals. -/
theorem pairOutcomes_map_namesake (signals : List Signal) (outcomeOf : Signal → Outcome)
    (ids : ∀ signal, (outcomeOf signal).signalId = signal.id) :
    pairOutcomes signals (signals.map outcomeOf) =
      signals.map fun signal => ⟨signal.namesake signals, outcomeOf signal⟩ := by
  unfold pairOutcomes
  have found (signal : Signal) (member : signal ∈ signals) :
      ((SignalIndex.ofList signals).get? (outcomeOf signal).signalId).map
        (fun known => (⟨known, outcomeOf signal⟩ : TaggedSignal)) =
        some ⟨signal.namesake signals, outcomeOf signal⟩ := by
    rw [get?_ofList, ids, find?_id_of_mem member]
    rfl
  -- The list that is searched stays whole while the induction takes its members one by one.
  generalize SignalIndex.ofList signals = index at *
  generalize Signal.namesake signals = namesakeOf at *
  induction signals with
  | nil => rfl
  | cons signal rest induction =>
      rw [List.map_cons, List.filterMap_cons, found signal List.mem_cons_self,
        induction fun other member => found other (List.mem_cons_of_mem _ member)]
      rfl

theorem pairOutcomes_map {signals : List Signal} (distinct : (signals.map (·.id)).Nodup)
    (outcomeOf : Signal → Outcome) (ids : ∀ signal, (outcomeOf signal).signalId = signal.id) :
    pairOutcomes signals (signals.map outcomeOf) =
      signals.map fun signal => ⟨signal, outcomeOf signal⟩ := by
  rw [pairOutcomes_map_namesake signals outcomeOf ids]
  apply List.map_congr_left
  intro signal member
  rw [namesake_of_nodup distinct member]

end SignalReplay
