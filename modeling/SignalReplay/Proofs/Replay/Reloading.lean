import SignalReplay.Proofs.Decimal.Rounding
import SignalReplay.Proofs.Metrics.Size
import SignalReplay.Proofs.Metrics.Streaks
import SignalReplay.Proofs.Replay.Artifacts
import SignalReplay.Proofs.Replay.Conservation
import SignalReplay.Proofs.Signal.Lines
import SignalReplay.Proofs.Tagging.History

/-!
Runs saved and loaded. A run that was saved comes back with its figures rounded and its outcomes as
they were exactly if all its numbers are finite, and at ordinary prices they are.
-/

namespace SignalReplay

open Binary64

/-! ## What a document loses -/

namespace CorpusMetrics

def optionalFigures (metrics : CorpusMetrics) : List Float :=
  [metrics.maxR, metrics.minR, metrics.averageAdverse, metrics.averageFavourable].filterMap id

def AllFinite (metrics : CorpusMetrics) : Prop :=
  ∀ figure ∈ metrics.requiredFigures ++ metrics.optionalFigures, figure.isFinite = true

theorem stored_eq_iff (metrics : CorpusMetrics) :
    metrics.stored = metrics ↔ ∀ figure ∈ metrics.optionalFigures, figure.isFinite = true := by
  have fields : metrics.stored = metrics ↔
      metrics.maxR.filter Float.isFinite = metrics.maxR ∧
      metrics.minR.filter Float.isFinite = metrics.minR ∧
      metrics.averageAdverse.filter Float.isFinite = metrics.averageAdverse ∧
      metrics.averageFavourable.filter Float.isFinite = metrics.averageFavourable := by
    cases metrics
    simp [stored]
  rw [fields]
  simp only [Outcome.filter_eq_self_iff, optionalFigures, List.mem_filterMap, List.mem_cons,
    List.not_mem_nil, or_false, id, exists_eq_right]
  grind

theorem allFinite_iff (metrics : CorpusMetrics) :
    metrics.AllFinite ↔
      (∀ figure ∈ metrics.requiredFigures, figure.isFinite = true) ∧ metrics.stored = metrics := by
  rw [AllFinite, List.forall_mem_append, stored_eq_iff]

end CorpusMetrics

namespace GroupedReport

def corpora (report : GroupedReport) : List CorpusMetrics :=
  report.overall :: report.groups.map (·.metrics)

theorem forall_requiredFigures_iff (report : GroupedReport) (keep : Float → Prop) :
    (∀ figure ∈ report.requiredFigures, keep figure) ↔
      ∀ metrics ∈ report.corpora, ∀ figure ∈ metrics.requiredFigures, keep figure := by
  rw [requiredFigures, corpora, List.forall_mem_append, List.forall_mem_cons, List.forall_mem_map,
    List.forall_mem_flatMap]

theorem forall_counts_iff (report : GroupedReport) (keep : ℕ → Prop) :
    (∀ count ∈ report.counts, keep count) ↔
      ∀ metrics ∈ report.corpora, ∀ count ∈ metrics.counts, keep count := by
  rw [counts, corpora, List.forall_mem_append, List.forall_mem_cons, List.forall_mem_map,
    List.forall_mem_flatMap]

theorem stored_eq_iff (report : GroupedReport) :
    report.stored = report ↔ ∀ metrics ∈ report.corpora, metrics.stored = metrics := by
  have rows : report.groups.map GroupRow.stored = report.groups ↔
      ∀ row ∈ report.groups, row.metrics.stored = row.metrics := by
    have pointwise := @List.map_inj_left _ _ report.groups GroupRow.stored id
    rw [List.map_id] at pointwise
    rw [pointwise]
    refine forall₂_congr fun row _ => ?_
    cases row
    simp [GroupRow.stored]
  rcases report with ⟨overall, groups⟩
  rw [stored, corpora, List.forall_mem_cons, List.forall_mem_map, GroupedReport.mk.injEq]
  exact and_congr_right fun _ => rows

end GroupedReport

namespace Replay

structure AllFinite (replay : Replay) : Prop where
  figures : ∀ metrics ∈ (replay.rounded documentDecimals).report.corpora, metrics.AllFinite
  outcomes : ∀ outcome ∈ replay.outcomes, outcome.AllFinite

theorem allFinite_iff (replay : Replay) :
    replay.AllFinite ↔
      (∀ figure ∈ (replay.rounded documentDecimals).report.requiredFigures,
        figure.isFinite = true) ∧ replay.stored = replay.rounded documentDecimals := by
  have same : replay.stored = replay.rounded documentDecimals ↔
      (replay.rounded documentDecimals).report.stored =
        (replay.rounded documentDecimals).report ∧
      replay.outcomes.map Outcome.stored = replay.outcomes := by
    rw [stored, rounded]
    simp only [Replay.mk.injEq, true_and]
  rw [same, GroupedReport.forall_requiredFigures_iff, GroupedReport.stored_eq_iff,
    OutcomeLines.map_stored_eq_iff, ← and_assoc, ← forall₂_and]
  simp only [← CorpusMetrics.allFinite_iff]
  exact ⟨fun finite => ⟨finite.figures, finite.outcomes⟩,
    fun finite => ⟨finite.1, finite.2⟩⟩

theorem load_eq_rounded_iff {replay : Replay} {tree saved : FileTree} {directory : String}
    (current : replay.version ≤ currentVersion)
    (fits : ∀ count ∈ replay.counts, count < Json.unsignedBound)
    (ended : finish (Artifacts.save replay directory) tree = (.ok (), saved)) :
    finish (Artifacts.load directory) saved = (.ok (replay.rounded documentDecimals), saved) ↔
      replay.AllFinite := by
  rcases Artifacts.held_of_save ended with ⟨documentHeld, outcomesHeld⟩
  rw [Artifacts.finish_load current fits documentHeld outcomesHeld, allFinite_iff]
  split
  · next finite =>
      rw [Prod.mk.injEq, Except.ok.injEq]
      exact ⟨fun equal => ⟨finite, equal.1⟩, fun both => ⟨both.2, rfl⟩⟩
  · next infinite =>
      constructor
      · intro equal
        cases (Prod.mk.inj equal).1
      · exact fun both => absurd both.1 infinite

end Replay

/-! ## Counts -/

theorem CorpusMetrics.counts_ofOutcomes_le (edges : HistogramEdges) (outcomes : List Outcome) :
    ∀ count ∈ (ofOutcomes edges outcomes).counts, count ≤ outcomes.length := by
  have multiples : (Metrics.rMultiples outcomes).length ≤ outcomes.length :=
    List.length_filterMap_le _ _
  have signs (test : Float → Bool) : (Metrics.rMultiples outcomes).countP test ≤ outcomes.length :=
    List.countP_le_length.trans multiples
  have longest {test : Float → Bool} {length : ℕ}
      (attained : length ∈ Metrics.runLengths test (Metrics.rMultiples outcomes)) :
      length ≤ outcomes.length :=
    (Metrics.le_countP_of_mem_runLengths attained).trans (signs test)
  have streaks := Metrics.follows_streaks outcomes
  rw [counts, List.forall_mem_append, List.forall_mem_map]
  constructor
  · simp only [List.forall_mem_cons, List.not_mem_nil, false_implies, implies_true, and_true]
    exact ⟨le_rfl, List.countP_le_length, List.countP_le_length, signs _, signs _, signs _,
      longest streaks.gains.longest.1, longest streaks.losses.longest.1⟩
  · intro bucket member
    rcases List.mem_mapIdx.mp member with ⟨place, _, rfl⟩
    calc ((Metrics.rMultiples outcomes).filterMap edges.bucketOf?).count place
        ≤ ((Metrics.rMultiples outcomes).filterMap edges.bucketOf?).length := List.count_le_length
      _ ≤ (Metrics.rMultiples outcomes).length := List.length_filterMap_le _ _
      _ ≤ outcomes.length := multiples

/-! ## Figures -/

namespace CorpusMetrics

theorem figures_rounded (metrics : CorpusMetrics) (decimals : UInt32) :
    (metrics.rounded decimals).requiredFigures ++ (metrics.rounded decimals).optionalFigures =
      (metrics.requiredFigures ++ metrics.optionalFigures).map (Decimal.roundTo · decimals) := by
  have optional : (metrics.rounded decimals).optionalFigures =
      metrics.optionalFigures.map (Decimal.roundTo · decimals) := by
    rw [optionalFigures, optionalFigures, List.map_filterMap]
    exact (List.filterMap_map (f := Option.map (Decimal.roundTo · decimals)) (g := id)
      (l := [metrics.maxR, metrics.minR, metrics.averageAdverse, metrics.averageFavourable]))
  rw [List.map_append, optional]
  rfl

section Bounded

variable {outcomes : List Outcome} (bounded : ∀ outcome ∈ outcomes, outcome.IsBounded)
  (room : outcomes.length < 2 ^ 64)
include bounded

theorem ofSize_rMultiples : ∀ r ∈ Metrics.rMultiples outcomes, OfSize 304 r := by
  intro r member
  rcases List.mem_filterMap.mp member with ⟨outcome, inOutcomes, found⟩
  rcases Option.map_eq_some_iff.mp found with ⟨quantity, present, rfl⟩
  exact (bounded outcome inOutcomes).rMultiple quantity present

theorem within_rMultiples : ∀ r ∈ Metrics.rMultiples outcomes, Within 304 r :=
  fun r member => (ofSize_rMultiples bounded r member).toWithin

include room

theorem within_expectancy : Within 422 (Metrics.expectancy outcomes).value := by
  rw [Metrics.expectancy, Metrics.value_meanQuantity]
  apply Metrics.within_mean
  · intro r member
    rcases List.mem_map.mp member with ⟨quantity, kept, rfl⟩
    rcases List.mem_filterMap.mp kept with ⟨outcome, evaluable, present⟩
    exact ((bounded outcome (List.mem_of_mem_filter evaluable)).rMultiple quantity
      present).toWithin
  · rw [List.length_map]
    exact (List.length_filterMap_le _ _).trans_lt ((List.length_filter_le _ _).trans_lt room)

theorem within_requiredFigures (edges : HistogramEdges) :
    ∀ figure ∈ (ofOutcomes edges outcomes).requiredFigures, Within 716 figure := by
  have few : (Metrics.rMultiples outcomes).length < 2 ^ 64 :=
    (List.length_filterMap_le _ _).trans_lt room
  have rate (test : Float → Bool) : Within 716 (Metrics.rate
      ((Metrics.rMultiples outcomes).countP test) (Metrics.rMultiples outcomes).length) :=
    (Metrics.within_rate (List.countP_le_length.trans_lt few) few).weaken (by decide)
  have averageR := Metrics.within_mean (within_rMultiples bounded) few
  have drawdown := Metrics.within_maxDrawdown (within_rMultiples bounded)
  simp only [requiredFigures, List.forall_mem_cons, List.not_mem_nil, false_implies, implies_true,
    and_true]
  exact ⟨rate _, rate _, rate _, (within_expectancy bounded room).weaken (by decide),
    Metrics.within_profitFactor (ofSize_rMultiples bounded), averageR.weaken (by decide),
    drawdown.weaken (by decide)⟩

theorem within_optionalFigures (edges : HistogramEdges) :
    ∀ figure ∈ (ofOutcomes edges outcomes).optionalFigures, Within 716 figure := by
  have extreme {choose : Float → Float → Float}
      (chooses : ∀ left right, choose left right = left ∨ choose left right = right) {found : Float}
      (combined : combine? choose (Metrics.rMultiples outcomes) = some found) : Within 716 found :=
    (within_rMultiples bounded found (Metrics.mem_of_combine? chooses combined)).weaken (by decide)
  have average {view : Outcome → Option Float}
      (views : ∀ outcome ∈ outcomes, ∀ move, view outcome = some move → OfSize 304 move)
      {found : Float} (present : Metrics.meanPresent (outcomes.filterMap view) = some found) :
      Within 716 found := by
    have few := (List.length_filterMap_le view outcomes).trans_lt room
    apply (Metrics.within_meanPresent _ few present).weaken (by decide)
    intro move member
    rcases List.mem_filterMap.mp member with ⟨outcome, inOutcomes, given⟩
    exact (views outcome inOutcomes move given).toWithin
  simp only [optionalFigures, List.mem_filterMap, List.mem_cons, List.not_mem_nil, or_false, id,
    exists_eq_right]
  rintro figure (found | found | found | found)
  · exact extreme Metrics.greater_eq_or found.symm
  · exact extreme Metrics.lesser_eq_or found.symm
  · exact average (fun outcome member => (bounded outcome member).adverse) found.symm
  · exact average (fun outcome member => (bounded outcome member).favourable) found.symm

theorem allFinite_rounded (edges : HistogramEdges) :
    ((ofOutcomes edges outcomes).rounded Replay.documentDecimals).AllFinite := by
  have within := List.forall_mem_append.mpr
    ⟨within_requiredFigures bounded room edges, within_optionalFigures bounded room edges⟩
  rw [AllFinite, figures_rounded, List.forall_mem_map]
  intro figure member
  exact (Decimal.isRounded_roundTo (within figure member) (by decide) (by decide)).1

end Bounded

end CorpusMetrics

theorem Outcome.IsBounded.allFinite {outcome : Outcome} (bounded : outcome.IsBounded) :
    outcome.AllFinite :=
  ⟨fun r found => (bounded.rMultiple r found).finite,
    fun move found => (bounded.adverse move found).finite,
    fun move found => (bounded.favourable move found).finite,
    fun price found => (bounded.exitPrice price found).finite⟩

namespace Replay

/-! ## Outcomes of a run -/

theorem corpora_ofData {series : CandleSeries} {signals : List Signal} {tieBreak : TieBreak}
    {edges : HistogramEdges} {metrics : CorpusMetrics}
    (member : metrics ∈ (ofData series signals tieBreak edges).report.corpora) :
    ∃ members, metrics = .ofOutcomes edges members ∧
      members.Subperm (tagAll signals series tieBreak) := by
  have pairs := map_outcome_pairOutcomes_tagAll signals series tieBreak
  have inOrder := (List.mergeSort_perm
    (pairOutcomes signals (tagAll signals series tieBreak)) TaggedSignal.notLater).map (·.outcome)
  rw [pairs] at inOrder
  rcases List.mem_cons.mp member with overall | inRows
  · exact ⟨_, overall, inOrder.subperm⟩
  · rcases List.mem_map.mp inRows with ⟨row, found, rfl⟩
    refine ⟨_, GroupedReport.metrics_of_mem_rankedRows found, ?_⟩
    exact (List.filter_sublist.map _).subperm.trans inOrder.subperm

theorem overall_ofData_singleton (series : CandleSeries) (signal : Signal) (tieBreak : TieBreak)
    (edges : HistogramEdges) :
    (ofData series [signal] tieBreak edges).report.overall =
      .ofOutcomes edges [signal.tag series tieBreak] := by
  have pairs := map_outcome_pairOutcomes_tagAll [signal] series tieBreak
  have inOrder := (List.mergeSort_perm
    (pairOutcomes [signal] (tagAll [signal] series tieBreak)) TaggedSignal.notLater).map (·.outcome)
  rw [pairs] at inOrder
  exact congrArg (CorpusMetrics.ofOutcomes edges) (List.perm_singleton.mp inOrder)

theorem counts_ofData_lt {series : CandleSeries} {signals : List Signal} (tieBreak : TieBreak)
    (edges : HistogramEdges) (candleRoom : series.size < Json.unsignedBound)
    (signalRoom : signals.length < Json.unsignedBound) :
    ∀ count ∈ (ofData series signals tieBreak edges).counts, count < Json.unsignedBound := by
  rw [counts, List.forall_mem_cons, List.forall_mem_cons, GroupedReport.forall_counts_iff]
  refine ⟨candleRoom, signalRoom, ?_⟩
  intro metrics member count counted
  rcases corpora_ofData member with ⟨members, rfl, part⟩
  have few := part.length_le
  rw [tagAll, List.length_map] at few
  have le := CorpusMetrics.counts_ofOutcomes_le edges members count counted
  omega

theorem allFinite_ofData {series : CandleSeries} {signals : List Signal} (tieBreak : TieBreak)
    (edges : HistogramEdges) (signalRoom : signals.length < 2 ^ 64)
    (signalsOrdinary : ∀ signal ∈ signals, signal.IsOrdinary)
    (candlesOrdinary : ∀ candle ∈ series.toList, candle.IsOrdinary) :
    (ofData series signals tieBreak edges).AllFinite := by
  have bounded : ∀ outcome ∈ tagAll signals series tieBreak, outcome.IsBounded := by
    rw [tagAll, List.forall_mem_map]
    intro signal member
    exact Signal.isBounded_tag (signalsOrdinary signal member) candlesOrdinary tieBreak
  have corpora : ((ofData series signals tieBreak edges).rounded documentDecimals).report.corpora =
      (ofData series signals tieBreak edges).report.corpora.map (·.rounded documentDecimals) := by
    rw [GroupedReport.corpora, GroupedReport.corpora, List.map_cons, List.map_map]
    change _ :: List.map _ (List.map _ _) = _
    rw [List.map_map]
    rfl
  constructor
  · rw [corpora, List.forall_mem_map]
    intro metrics member
    rcases corpora_ofData member with ⟨members, rfl, part⟩
    have few := part.length_le
    rw [tagAll, List.length_map] at few
    exact CorpusMetrics.allFinite_rounded
      (fun outcome inMembers => bounded outcome (part.subset inMembers)) (few.trans_lt signalRoom)
      edges
  · intro outcome member
    exact (bounded outcome member).allFinite

/-- A saved run is loaded as its rounded result with its very outcomes exactly if all its numbers
are finite. At ordinary prices it always is. -/
theorem load_of_run {pools : ThreadPools} {configuration : Configuration} {series : CandleSeries}
    {signals : List Signal} {replay : Replay} {tree saved : FileTree} {directory : String}
    (ran : run pools configuration series signals = .ok replay)
    (candleRoom : series.size < Json.unsignedBound)
    (signalRoom : signals.length < Json.unsignedBound)
    (ended : finish (Artifacts.save replay directory) tree = (.ok (), saved)) :
    (finish (Artifacts.load directory) saved = (.ok (replay.rounded documentDecimals), saved) ↔
        replay.AllFinite) ∧
      ((∀ signal ∈ signals, signal.IsOrdinary) → (∀ candle ∈ series.toList, candle.IsOrdinary) →
        finish (Artifacts.load directory) saved =
          (.ok (replay.rounded documentDecimals), saved)) := by
  rcases exists_of_run ran with ⟨tieBreak, edges, -, -, -, rfl⟩
  have loads := load_eq_rounded_iff (Nat.le_refl _)
    (counts_ofData_lt tieBreak edges candleRoom signalRoom) ended
  refine ⟨loads, ?_⟩
  intro signalsOrdinary candlesOrdinary
  exact loads.mpr (allFinite_ofData tieBreak edges signalRoom signalsOrdinary candlesOrdinary)

theorem exists_saved (series : CandleSeries) (signals : List Signal) :
    ∃ tieBreak edges saved,
      (∀ pools, run pools {} series signals = .ok (ofData series signals tieBreak edges)) ∧
      finish (Artifacts.save (ofData series signals tieBreak edges) "out") FileTree.empty =
        (.ok (), saved) := by
  have valid : ({} : Configuration).check = .ok () := by rfl
  rcases settings_of_check valid with ⟨⟨tieBreak, tieBreakRead⟩, edges, edgesRead⟩
  have room : Artifacts.HasRoom FileTree.empty "out" :=
    Artifacts.hasRoom_of_isOk rfl (by decide +kernel) (by decide +kernel)
  rcases Artifacts.exists_save room (ofData series signals tieBreak edges) with ⟨saved, ended⟩
  exact ⟨tieBreak, edges, saved,
    fun _ => run_eq tieBreakRead edgesRead (.inl rfl) series signals, ended⟩

theorem load_of_run_at_a_target :
    let opened : Instant := ⟨0, 0, by decide, by decide, by decide⟩
    let signals := [Signal.longAtHundred opened]
    let series := CandleSeries.ofList
      [Signal.swing ⟨60, 0, by decide, by decide, by decide⟩ 100.0 103.0]
    ∃ replay saved, run .unlimited {} series signals = .ok replay ∧
      finish (Artifacts.save replay "out") FileTree.empty = (.ok (), saved) ∧
      (∀ signal ∈ signals, signal.IsOrdinary) ∧ (∀ candle ∈ series.toList, candle.IsOrdinary) ∧
      finish (Artifacts.load "out") saved = (.ok (replay.rounded documentDecimals), saved) ∧
      replay.AllFinite := by
  intro opened signals series
  rcases exists_saved series signals with ⟨tieBreak, edges, saved, ran, ended⟩
  have signalsOrdinary : ∀ signal ∈ signals, signal.IsOrdinary := by
    intro signal member
    rw [List.mem_singleton.mp member]
    exact ⟨isOrdinary_of_bits (by decide) (by decide), isOrdinary_of_bits (by decide) (by decide),
      isOrdinary_of_bits (by decide) (by decide)⟩
  have candlesOrdinary : ∀ candle ∈ series.toList, candle.IsOrdinary := by
    simp only [series, CandleSeries.toList_ofList, List.mergeSort_singleton, List.forall_mem_singleton]
    exact ⟨isOrdinary_of_bits (by decide) (by decide), isOrdinary_of_bits (by decide) (by decide)⟩
  rcases load_of_run (ran .unlimited) ((CandleSeries.size_ofList _).trans_lt (by decide))
    (show signals.length < _ by decide) ended with ⟨loads, ordinary⟩
  have loaded := ordinary signalsOrdinary candlesOrdinary
  exact ⟨_, saved, ran .unlimited, ended, signalsOrdinary, candlesOrdinary, loaded, loads.mp loaded⟩

/-- An undefined stop is never touched and leaves a win without a defined R-multiple, which the
document writes as null. It is not read back. -/
theorem not_loaded_with_undefined_stop :
    ∃ signals replay saved,
      SignalLines.read Timestamp.standardPattern "signals.jsonl"
        (SignalLines.longLine "\"sl\": \"NaN\", \"tp\": 102") = .ok signals ∧
      (∀ pools, run pools {} (.ofList
        [Signal.swing ⟨1704186300, 0, by decide, by decide, by decide⟩ 100.0 103.0]) signals =
          .ok replay) ∧
      finish (Artifacts.save replay "out") FileTree.empty = (.ok (), saved) ∧
      finish (Artifacts.load "out") saved = (.error (.document .malformed), saved) := by
  let candle := Signal.swing ⟨1704186300, 0, by decide, by decide, by decide⟩ 100.0 103.0
  have loaded : (SignalLines.signals Timestamp.standardPattern 1
      (Text.lines (SignalLines.longLine "\"sl\": \"NaN\", \"tp\": 102"))).toOption.map
        (·.map fun signal => (signal.timestamp, signal.direction, signal.entry, signal.stop,
          signal.target)) =
      some [(⟨1704186000, 0, by decide, by decide, by decide⟩, .long, .ofFloat 100.0,
        .withSign false Numeral.notANumber, .ofFloat 102.0)] := by decide +kernel
  rcases SignalLines.exists_read_singleton loaded with ⟨signal, read, view⟩
  simp only [Prod.mk.injEq] at view
  rcases view with ⟨time, direction, entry, stop, target⟩
  rcases exists_saved (.ofList [candle]) [signal] with ⟨tieBreak, edges, saved, ran, ended⟩
  have isAfter : candle.isAfter signal.timestamp = true := by
    rw [time]
    decide
  have untouched : signal.touchesStop candle = false := by
    rw [Signal.touchesStop, direction, stop]
    decide
  have reached : signal.touchesTarget candle = true := by
    rw [Signal.touchesTarget, direction, target]
    decide
  rcases Signal.tag_won_alone isAfter untouched reached tieBreak with ⟨label, multiple⟩
  have undefined : (Decimal.roundTo (Metrics.expectancy
      [signal.tag (.ofList [candle]) tieBreak]).value documentDecimals).isFinite = false := by
    have evaluable : (signal.tag (.ofList [candle]) tieBreak).isEvaluable = true := by
      rw [Outcome.isEvaluable, label, multiple]
      rfl
    have only : Metrics.distribution [signal.tag (.ofList [candle]) tieBreak] =
        [signal.reward / signal.risk] := by
      rw [Metrics.distribution, List.filter_cons_of_pos evaluable, List.filter_nil,
        List.filterMap_cons_some multiple, List.filterMap_nil]
    rw [Metrics.expectancy, only, Signal.reward, Signal.risk, Signal.stopDistance, direction, entry,
      stop, target]
    decide +kernel
  have lost : ¬ ∀ figure ∈ ((ofData (.ofList [candle]) [signal] tieBreak edges).rounded
      documentDecimals).report.requiredFigures, figure.isFinite = true := by
    intro finite
    have given := finite (Decimal.roundTo
      (ofData (.ofList [candle]) [signal] tieBreak edges).report.overall.expectancy.value
        documentDecimals) (List.mem_append_left _ (.tail _ (.tail _ (.tail _ (.head _)))))
    rw [overall_ofData_singleton] at given
    change (Decimal.roundTo (Metrics.expectancy _).value documentDecimals).isFinite = true at given
    rw [undefined] at given
    cases given
  rcases Artifacts.held_of_save ended with ⟨documentHeld, outcomesHeld⟩
  refine ⟨[signal], _, saved, read, ran, ended, ?_⟩
  rw [Artifacts.finish_load (Nat.le_refl _)
    (counts_ofData_lt tieBreak edges ((CandleSeries.size_ofList _).trans_lt (by decide))
      ((List.length_singleton).trans_lt (by decide))) documentHeld outcomesHeld, if_neg lost]

end Replay

end SignalReplay
