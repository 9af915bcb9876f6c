import SignalReplay.Metrics.Corpus
import SignalReplay.Proofs.Metrics.Multiples
import SignalReplay.Proofs.Signal.Lines
import SignalReplay.Proofs.Tagging.History
import SignalReplay.Proofs.Tagging.Prices

/-!
The two readings of how trades ended. Labels and signs count alike where every outcome reads the
same both ways. A replay ends in such an outcome unless it wins without a gain, which at ordinary
prices is a matter of where the target lies.
-/

namespace SignalReplay

open Binary64

namespace Outcome

/-- The label tells the sign of the R-multiple, or that there is none. -/
structure ReadsAlike (outcome : Outcome) : Prop where
  win : (outcome.label = .win) = outcome.multipleIs (0 < ·)
  loss : (outcome.label = .loss) = outcome.multipleIs (· < 0)
  breakEven : (outcome.label = .breakEven) = outcome.multipleIs (· == 0)
  resolved : outcome.label.isResolved = outcome.rMultiple.isSome

end Outcome

namespace Metrics

structure ReadingsAgree (edges : HistogramEdges) (outcomes : List Outcome) : Prop where
  wins : outcomes.countP (·.label = .win) = (CorpusMetrics.ofOutcomes edges outcomes).wins
  losses : outcomes.countP (·.label = .loss) = (CorpusMetrics.ofOutcomes edges outcomes).losses
  breakEven : outcomes.countP (·.label = .breakEven) =
    (CorpusMetrics.ofOutcomes edges outcomes).breakEven
  winRate : winRate outcomes = (CorpusMetrics.ofOutcomes edges outcomes).winRate
  breakEvenRate : breakEvenRate outcomes =
    (CorpusMetrics.ofOutcomes edges outcomes).breakEvenRate

variable {outcomes : List Outcome} {edges : HistogramEdges}

theorem labelRate_eq {label : OutcomeLabel} (isResolved : label.isResolved = true)
    (resolved : ∀ outcome ∈ outcomes, outcome.label.isResolved = outcome.rMultiple.isSome) :
    labelRate label outcomes =
      rate (outcomes.countP (·.label = label)) (rMultiples outcomes).length := by
  have evaluable : ∀ outcome ∈ outcomes, outcome.isEvaluable = outcome.rMultiple.isSome := by
    intro outcome member
    rw [Outcome.isEvaluable, resolved outcome member, Bool.and_self]
  have sizes : outcomes.countP (·.isEvaluable) = (rMultiples outcomes).length := by
    rw [length_rMultiples]
    exact List.countP_congr fun outcome member => by rw [evaluable outcome member]
  have parts : (outcomes.filter (·.isEvaluable)).countP (·.label = label) =
      outcomes.countP (·.label = label) := by
    rw [List.countP_filter]
    apply List.countP_congr
    intro outcome member
    rw [Bool.and_eq_true, decide_eq_true_eq, evaluable outcome member, ← resolved outcome member]
    exact ⟨And.left, fun equal => ⟨equal, equal ▸ isResolved⟩⟩
  rw [labelRate, parts, ← List.countP_eq_length_filter, sizes]

theorem readingsAgree_of_readsAlike (alike : ∀ outcome ∈ outcomes, outcome.ReadsAlike) :
    ReadingsAgree edges outcomes := by
  have wins : outcomes.countP (·.label = .win) = (rMultiples outcomes).countP (0 < ·) := by
    rw [countP_rMultiples]
    exact List.countP_congr fun outcome member => by
      rw [decide_eq_true_eq, (alike outcome member).win]
  have losses : outcomes.countP (·.label = .loss) = (rMultiples outcomes).countP (· < 0) := by
    rw [countP_rMultiples]
    exact List.countP_congr fun outcome member => by
      rw [decide_eq_true_eq, (alike outcome member).loss]
  have breakEven : outcomes.countP (·.label = .breakEven) =
      (rMultiples outcomes).countP (· == 0) := by
    rw [countP_rMultiples]
    exact List.countP_congr fun outcome member => by
      rw [decide_eq_true_eq, (alike outcome member).breakEven]
  have resolved := fun outcome member => (alike outcome member).resolved
  refine ⟨wins, losses, breakEven, ?_, ?_⟩
  · rw [winRate, labelRate_eq rfl resolved, wins]
    rfl
  · rw [Metrics.breakEvenRate, labelRate_eq rfl resolved, breakEven]
    rfl

/-! ## Outcomes of replays -/

theorem signs_of_pos {r : Float} (positive : 0 < r) : ¬ r < 0 ∧ (r == 0) = false := by
  rw [lt_iff, orderKey_zero] at positive
  constructor
  · rw [lt_iff, orderKey_zero]
    omega
  · rw [← Bool.not_eq_true, beq_iff, orderKey_zero]
    omega

theorem readsAlike_iff {signal : Signal} {outcome : Outcome} (ending : signal.Ending outcome) :
    outcome.ReadsAlike ↔
      (outcome.label = .win → 0 < (signal.reward / signal.risk).value) := by
  cases ending with
  | unresolved label multiple _ =>
      refine iff_of_true ⟨?_, ?_, ?_, ?_⟩ (fun win => by rw [label] at win; cases win)
      all_goals simp [Outcome.multipleIs, label, multiple, OutcomeLabel.isResolved]
  | lost label multiple _ =>
      have signs : ¬ (0 : Float) < -1.0 ∧ (-1.0 : Float) < 0 ∧ ((-1.0 : Float) == 0) = false := by
        decide
      refine iff_of_true ⟨?_, ?_, ?_, ?_⟩ (fun win => by rw [label] at win; cases win)
      all_goals
        simp [Outcome.multipleIs, label, multiple, OutcomeLabel.isResolved, signs]
  | won label multiple _ =>
      constructor
      · intro alike _
        have gains := alike.win
        rw [label, Outcome.multipleIs, multiple] at gains
        simpa using gains
      · intro gains
        have gained := gains label
        rcases signs_of_pos gained with ⟨notLost, notEven⟩
        rw [Quantity.value_div] at gained notLost notEven
        constructor
        all_goals
          simp [Outcome.multipleIs, label, multiple, OutcomeLabel.isResolved, gained, notLost,
            notEven]

/-! ## Tagged signals -/

theorem of_countP_eq {α : Type} {test stricter : α → Bool} {list : List α}
    (strict : ∀ member ∈ list, stricter member = true → test member = true)
    (equal : list.countP test = list.countP stricter) {member : α} (inList : member ∈ list)
    (passes : test member = true) : stricter member = true := by
  have all : (list.filter test).countP stricter = (list.filter test).length := by
    rw [List.countP_filter, ← List.countP_eq_length_filter, equal]
    exact List.countP_congr fun other inList => by
      rw [Bool.and_eq_true]
      exact ⟨And.left, fun passed => ⟨passed, strict other inList passed⟩⟩
  exact List.countP_eq_length.mp all member (List.mem_filter.mpr ⟨inList, passes⟩)

/-- The figures of tagged signals by label and by sign agree, and no trade breaks even. -/
def AgreeOnTagged (edges : HistogramEdges) (signals : List Signal) (series : CandleSeries)
    (tieBreak : TieBreak) : Prop :=
  ReadingsAgree edges (tagAll signals series tieBreak) ∧
    (CorpusMetrics.ofOutcomes edges (tagAll signals series tieBreak)).breakEven = 0

section Tagged

variable {signals : List Signal} {series : CandleSeries} {tieBreak : TieBreak}

theorem agreeOnTagged_of_gain
    (gains : ∀ signal ∈ signals, (signal.tag series tieBreak).label = .win →
      0 < (signal.reward / signal.risk).value) :
    AgreeOnTagged edges signals series tieBreak := by
  have alike : ∀ outcome ∈ tagAll signals series tieBreak, outcome.ReadsAlike := by
    intro outcome inOutcomes
    rcases List.mem_map.mp inOutcomes with ⟨signal, member, rfl⟩
    exact (readsAlike_iff (Signal.ending_tag signal series tieBreak)).mpr (gains signal member)
  have agree : ReadingsAgree edges _ := readingsAgree_of_readsAlike alike
  refine ⟨agree, ?_⟩
  rw [← agree.breakEven, List.countP_eq_zero]
  intro outcome inOutcomes
  rcases List.mem_map.mp inOutcomes with ⟨signal, _, rfl⟩
  cases Signal.ending_tag signal series tieBreak with
  | unresolved label => rw [label]; decide
  | lost label => rw [label]; decide
  | won label => rw [label]; decide

theorem gain_of_agreeOnTagged (agree : AgreeOnTagged edges signals series tieBreak)
    {signal : Signal} (member : signal ∈ signals)
    (win : (signal.tag series tieBreak).label = .win) :
    0 < (signal.reward / signal.risk).value := by
  -- Only wins gain, so if as many gain as win, all of them do.
  have onlyWins : ∀ outcome ∈ tagAll signals series tieBreak,
      outcome.multipleIs (0 < ·) = true → decide (outcome.label = .win) = true := by
    intro outcome inOutcomes gains
    rcases List.mem_map.mp inOutcomes with ⟨other, _, rfl⟩
    cases Signal.ending_tag other series tieBreak with
    | unresolved label multiple _ =>
        rw [Outcome.multipleIs, multiple] at gains
        cases gains
    | lost label multiple _ =>
        rw [Outcome.multipleIs, multiple] at gains
        exact absurd gains (by decide)
    | won label multiple _ => exact decide_eq_true label
  have counts : _ = (rMultiples _).countP (0 < ·) := agree.1.wins
  rw [countP_rMultiples] at counts
  have gains := of_countP_eq onlyWins counts (List.mem_map_of_mem member) (decide_eq_true win)
  cases Signal.ending_tag signal series tieBreak with
  | unresolved label multiple _ => rw [label] at win; cases win
  | lost label multiple _ => rw [label] at win; cases win
  | won label multiple _ =>
      rw [Outcome.multipleIs, multiple] at gains
      simpa using gains

end Tagged

/-- Labels and signs agree on tagged signals exactly if every win gains. At ordinary prices that
is, if every signal that wins has its target beyond its entry. -/
theorem agreeOnTagged_iff (signals : List Signal) (series : CandleSeries) (tieBreak : TieBreak)
    (edges : HistogramEdges) :
    (AgreeOnTagged edges signals series tieBreak ↔
      ∀ signal ∈ signals, (signal.tag series tieBreak).label = .win →
        0 < (signal.reward / signal.risk).value) ∧
    ((∀ signal ∈ signals, signal.IsOrdinary) →
      (AgreeOnTagged edges signals series tieBreak ↔
        ∀ signal ∈ signals, (signal.tag series tieBreak).label = .win → signal.TargetsGain)) := by
  have gain : AgreeOnTagged edges signals series tieBreak ↔
      ∀ signal ∈ signals, (signal.tag series tieBreak).label = .win →
        0 < (signal.reward / signal.risk).value :=
    ⟨fun agree _ member => gain_of_agreeOnTagged agree member, agreeOnTagged_of_gain⟩
  refine ⟨gain, ?_⟩
  intro ordinary
  rw [gain]
  constructor
  · intro gains signal member win
    exact (Signal.gain_pos_iff (ordinary signal member)).mp (gains signal member win)
  · intro gains signal member win
    exact (Signal.gain_pos_iff (ordinary signal member)).mpr (gains signal member win)

theorem agreeOnTagged_at_a_target :
    let opened : Instant := ⟨0, 0, by decide, by decide, by decide⟩
    let signal := Signal.longAtHundred opened
    let gain := Signal.swing ⟨60, 0, by decide, by decide, by decide⟩ 100.0 103.0
    signal.IsOrdinary ∧ (signal.tag (.ofList [gain]) .loss).label = .win ∧
      signal.TargetsGain ∧ AgreeOnTagged .standard [signal] (.ofList [gain]) .loss := by
  intro opened signal gain
  have ordinary : signal.IsOrdinary := ⟨isOrdinary_of_bits (by decide) (by decide),
    isOrdinary_of_bits (by decide) (by decide), isOrdinary_of_bits (by decide) (by decide)⟩
  have targets : signal.TargetsGain := by
    change (100.0 : Float) < 102.0
    decide
  have alone : signal.future [gain] = [gain] := by
    rw [Signal.future, List.filter_cons_of_pos (by decide), List.filter_nil,
      List.mergeSort_singleton]
  have win : (signal.tag (.ofList [gain]) .loss).label = .win := by
    rw [Signal.tag_ofList, alone]
    decide
  refine ⟨ordinary, win, targets, ?_⟩
  apply ((agreeOnTagged_iff [signal] (.ofList [gain]) .loss .standard).2 ?_).mpr
  · intro other member _
    rw [List.mem_singleton.mp member]
    exact targets
  · intro other member
    rw [List.mem_singleton.mp member]
    exact ordinary

/-- A missing target is read as zero, which any candle reaches. The trade wins by its label and
loses all of its entry by its sign. -/
theorem not_agreeOnTagged_without_target :
    let candle := Signal.swing ⟨1704186300, 0, by decide, by decide, by decide⟩ 100.0 103.0
    ∃ signals,
      SignalLines.read Timestamp.standardPattern "signals.jsonl" (SignalLines.longLine "\"sl\": 99") =
        .ok signals ∧
      (tagAll signals (.ofList [candle]) .loss).countP (·.label = .win) = 1 ∧
      (∀ edges,
        (CorpusMetrics.ofOutcomes edges (tagAll signals (.ofList [candle]) .loss)).wins = 0 ∧
        (CorpusMetrics.ofOutcomes edges (tagAll signals (.ofList [candle]) .loss)).losses = 1 ∧
        ¬ AgreeOnTagged edges signals (.ofList [candle]) .loss) := by
  intro candle
  have loaded : (SignalLines.signals Timestamp.standardPattern 1
      (Text.lines (SignalLines.longLine "\"sl\": 99"))).toOption.map
        (·.map fun signal => (signal.timestamp, signal.direction, signal.entry, signal.stop,
          signal.target)) =
      some [(⟨1704186000, 0, by decide, by decide, by decide⟩, .long, .ofFloat 100.0,
        .ofFloat 99.0, .ofFloat 0.0)] := by decide +kernel
  rcases SignalLines.exists_read_singleton loaded with ⟨signal, read, view⟩
  simp only [Prod.mk.injEq] at view
  rcases view with ⟨time, direction, entry, stop, target⟩
  have isAfter : candle.isAfter signal.timestamp = true := by
    rw [time]
    decide
  have untouched : signal.touchesStop candle = false := by
    rw [Signal.touchesStop, direction, stop]
    decide
  have reached : signal.touchesTarget candle = true := by
    rw [Signal.touchesTarget, direction, target]
    decide
  rcases Signal.tag_won_alone isAfter untouched reached .loss with ⟨label, multiple⟩
  have gain : signal.reward / signal.risk = .ofFloat (-100.0) := by
    rw [Signal.reward, Signal.risk, Signal.stopDistance, direction, entry, stop, target]
    decide +kernel
  have multiples : rMultiples (tagAll [signal] (.ofList [candle]) .loss) = [-100.0] := by
    rw [rMultiples, tagAll, List.map_singleton, List.filterMap_cons, multiple, gain]
    rfl
  refine ⟨[signal], read, ?_, ?_⟩
  · rw [tagAll, List.map_singleton, List.countP_singleton, label]
    decide
  · intro edges
    refine ⟨?_, ?_, ?_⟩
    · change (rMultiples _).countP (0 < ·) = 0
      rw [multiples]
      decide
    · change (rMultiples _).countP (· < 0) = 1
      rw [multiples]
      decide
    · intro agree
      have positive := gain_of_agreeOnTagged agree (List.mem_singleton_self signal) label
      rw [gain] at positive
      exact absurd positive (by decide)

end Metrics

end SignalReplay
