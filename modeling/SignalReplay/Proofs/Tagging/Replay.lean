import SignalReplay.Proofs.Market.Series
import SignalReplay.Proofs.Tagging.Excursion

/-!
What a replay finds, said in prices. The candles a signal sees are those up to the first that
reaches its stop or its target; that candle gives the ending, and all that were seen give the
excursions.
-/

namespace SignalReplay

namespace Signal

/-- A candle reaches the stop. A long trade has it below, a short one above. -/
def StopReached (signal : Signal) (candle : Candle) : Prop :=
  match signal.direction with
  | .long => candle.low.value ≤ signal.stop.value
  | .short => signal.stop.value ≤ candle.high.value

def TargetReached (signal : Signal) (candle : Candle) : Prop :=
  match signal.direction with
  | .long => signal.target.value ≤ candle.high.value
  | .short => candle.low.value ≤ signal.target.value

@[simp]
theorem touchesStop_iff {signal : Signal} {candle : Candle} :
    signal.touchesStop candle = true ↔ signal.StopReached candle := by
  unfold touchesStop StopReached
  cases signal.direction <;> exact decide_eq_true_iff

@[simp]
theorem touchesStop_eq_false_iff {signal : Signal} {candle : Candle} :
    signal.touchesStop candle = false ↔ ¬ signal.StopReached candle := by
  rw [← Bool.not_eq_true, touchesStop_iff]

@[simp]
theorem touchesTarget_iff {signal : Signal} {candle : Candle} :
    signal.touchesTarget candle = true ↔ signal.TargetReached candle := by
  unfold touchesTarget TargetReached
  cases signal.direction <;> exact decide_eq_true_iff

instance (signal : Signal) (candle : Candle) : Decidable (signal.StopReached candle) :=
  decidable_of_iff _ touchesStop_iff

instance (signal : Signal) (candle : Candle) : Decidable (signal.TargetReached candle) :=
  decidable_of_iff _ touchesTarget_iff

def touches (signal : Signal) (candle : Candle) : Bool :=
  signal.touchesStop candle || signal.touchesTarget candle

@[simp]
theorem touches_iff {signal : Signal} {candle : Candle} :
    signal.touches candle = true ↔ signal.StopReached candle ∨ signal.TargetReached candle := by
  simp [touches]

@[simp]
theorem touches_eq_false_iff {signal : Signal} {candle : Candle} :
    signal.touches candle = false ↔ ¬ signal.StopReached candle ∧ ¬ signal.TargetReached candle := by
  rw [← Bool.not_eq_true, touches_iff, not_or]

def seen (signal : Signal) : List Candle → List Candle
  | [] => []
  | candle :: rest =>
    if signal.StopReached candle ∨ signal.TargetReached candle then [candle]
    else candle :: signal.seen rest

@[simp]
theorem seen_cons (signal : Signal) (candle : Candle) (rest : List Candle) :
    signal.seen (candle :: rest) =
      if signal.touches candle then [candle] else candle :: signal.seen rest := by
  simp [seen]

def ended (signal : Signal) (candle : Candle) (excursion : Excursion) : Outcome :=
  if signal.touchesStop candle then signal.lost candle excursion
  else signal.won candle excursion

def endedAt (signal : Signal) (excursion : Excursion) : Option Candle → Outcome
  | none => signal.unresolved excursion
  | some candle => signal.ended candle excursion

theorem endedAt_excursion (signal : Signal) (excursion : Excursion) (candle? : Option Candle) :
    (signal.endedAt excursion candle?).signalId = signal.id ∧
      (signal.endedAt excursion candle?).adverse = Excursion.reported excursion.adverse ∧
      (signal.endedAt excursion candle?).favourable =
        Excursion.reported excursion.favourable := by
  cases candle? with
  | none => exact ⟨rfl, rfl, rfl⟩
  | some candle =>
      rw [endedAt, ended]
      split <;> exact ⟨rfl, rfl, rfl⟩

theorem replay_touched {signal : Signal} {candle : Candle}
    (touched : signal.touches candle = true) (tieBreak : TieBreak) (excursion : Excursion)
    (rest : List Candle) :
    signal.replay tieBreak excursion (candle :: rest) =
      signal.ended candle (excursion.update signal candle) := by
  unfold touches at touched
  unfold replay ended
  cases tieBreak
  cases stop : signal.touchesStop candle with
  | true => rfl
  | false =>
      rw [stop, Bool.false_or] at touched
      rw [touched]
      rfl

theorem replay_untouched {signal : Signal} {candle : Candle}
    (untouched : signal.touches candle = false) (tieBreak : TieBreak) (excursion : Excursion)
    (rest : List Candle) :
    signal.replay tieBreak excursion (candle :: rest) =
      signal.replay tieBreak (excursion.update signal candle) rest := by
  rw [touches, Bool.or_eq_false_iff] at untouched
  conv => lhs; unfold replay
  rw [untouched.1, untouched.2]

theorem extend_eq (signal : Signal) (distance? : Signal → Candle → Option Float)
    (known : Float) (candle : Candle) (rest : List Candle) :
    (moves signal distance? rest).foldl greater
        (Excursion.extend known signal.risk.value (distance? signal candle)) =
      (moves signal distance? (candle :: rest)).foldl greater known := by
  rw [moves, moves, List.filterMap_cons]
  cases distance? signal candle <;> rfl

theorem foldl_update (signal : Signal) (excursion : Excursion) (candles : List Candle) :
    candles.foldl (fun known candle => known.update signal candle) excursion =
      ⟨(moves signal Excursion.adverse? candles).foldl greater excursion.adverse,
        (moves signal Excursion.favourable? candles).foldl greater excursion.favourable⟩ := by
  induction candles generalizing excursion with
  | nil => rfl
  | cons candle rest induction =>
      rw [List.foldl_cons, induction, ← extend_eq, ← extend_eq]
      rfl

/-- A replay updates its excursion over the candles it sees and ends at the first that touches. -/
theorem replay_eq (signal : Signal) (tieBreak : TieBreak) (excursion : Excursion)
    (candles : List Candle) :
    signal.replay tieBreak excursion candles =
      signal.endedAt
        ((signal.seen candles).foldl (fun known candle => known.update signal candle) excursion)
        (candles.find? signal.touches) := by
  induction candles generalizing excursion with
  | nil => rfl
  | cons candle rest induction =>
      rw [seen_cons]
      cases touched : signal.touches candle with
      | true =>
          rw [replay_touched touched, List.find?_cons_of_pos touched, if_pos rfl]
          rfl
      | false =>
          rw [replay_untouched touched, induction,
            List.find?_cons_of_neg (by rw [touched]; decide), if_neg (by decide)]
          rfl

end Signal

/-! ## Outcomes -/

namespace Signal

def movesBelow (signal : Signal) (candles : List Candle) : List Float :=
  (candles.filter fun candle => candle.low.value < signal.entry.value).map fun candle =>
    (signal.entry.value - candle.low.value) / signal.risk.value

def movesAbove (signal : Signal) (candles : List Candle) : List Float :=
  (candles.filter fun candle => signal.entry.value < candle.high.value).map fun candle =>
    (candle.high.value - signal.entry.value) / signal.risk.value

def movesAgainst (signal : Signal) (candles : List Candle) : List Float :=
  match signal.direction with
  | .long => signal.movesBelow candles
  | .short => signal.movesAbove candles

def movesFor (signal : Signal) (candles : List Candle) : List Float :=
  match signal.direction with
  | .long => signal.movesAbove candles
  | .short => signal.movesBelow candles

def gain (signal : Signal) : Quantity :=
  match signal.direction with
  | .long => (signal.target - signal.entry) / signal.risk
  | .short => (signal.entry - signal.target) / signal.risk

@[simp]
theorem moves_below (signal : Signal) (candles : List Candle) :
    moves signal Excursion.below? candles = signal.movesBelow candles := by
  rw [moves, movesBelow, ← List.filterMap_eq_map, ← List.filterMap_eq_map, List.filterMap_filterMap,
    List.filterMap_filter]
  refine List.filterMap_congr fun candle _ => ?_
  unfold Excursion.below?
  split <;> simp_all

@[simp]
theorem moves_above (signal : Signal) (candles : List Candle) :
    moves signal Excursion.above? candles = signal.movesAbove candles := by
  rw [moves, movesAbove, ← List.filterMap_eq_map, ← List.filterMap_eq_map, List.filterMap_filterMap,
    List.filterMap_filter]
  refine List.filterMap_congr fun candle _ => ?_
  unfold Excursion.above?
  split <;> simp_all

@[simp]
theorem moves_adverse (signal : Signal) (candles : List Candle) :
    moves signal Excursion.adverse? candles = signal.movesAgainst candles := by
  rw [movesAgainst, ← moves_below, ← moves_above]
  unfold moves Excursion.adverse?
  cases signal.direction <;> rfl

@[simp]
theorem moves_favourable (signal : Signal) (candles : List Candle) :
    moves signal Excursion.favourable? candles = signal.movesFor candles := by
  rw [movesFor, ← moves_below, ← moves_above]
  unfold moves Excursion.favourable?
  cases signal.direction <;> rfl

theorem gain_eq (signal : Signal) : signal.gain = signal.reward / signal.risk := by
  unfold gain reward
  cases signal.direction <;> rfl

theorem isNegative_movesAgainst {signal : Signal} {candles : List Candle} {move : Float}
    (member : move ∈ signal.movesAgainst candles) : Binary64.isNegative move = false := by
  rw [← signal.moves_adverse] at member
  exact isNegative_moves isNegative_adverse member

theorem isNegative_movesFor {signal : Signal} {candles : List Candle} {move : Float}
    (member : move ∈ signal.movesFor candles) : Binary64.isNegative move = false := by
  rw [← signal.moves_favourable] at member
  exact isNegative_moves isNegative_favourable member

end Signal

/-- What an outcome says about how a replay over candles in order ended. -/
structure EndsAs (signal : Signal) (candles : List Candle) (outcome : Outcome) : Prop where
  signalId : outcome.signalId = signal.id
  untouched : (∀ candle ∈ candles, ¬ signal.StopReached candle ∧ ¬ signal.TargetReached candle) →
    outcome.label = .unknown ∧ outcome.rMultiple = none ∧ outcome.exitPrice = none ∧
      outcome.exitTime = none
  /-- The stop decides, also where the same candle reaches the target. -/
  stopped : ∀ before candle rest, candles = before ++ candle :: rest →
    (∀ earlier ∈ before, ¬ signal.StopReached earlier ∧ ¬ signal.TargetReached earlier) →
    signal.StopReached candle →
    outcome.label = .loss ∧ outcome.rMultiple = some (.ofFloat (-1.0)) ∧
      outcome.exitPrice = some signal.stop.value ∧ outcome.exitTime = some candle.timestamp
  reached : ∀ before candle rest, candles = before ++ candle :: rest →
    (∀ earlier ∈ before, ¬ signal.StopReached earlier ∧ ¬ signal.TargetReached earlier) →
    ¬ signal.StopReached candle → signal.TargetReached candle →
    outcome.label = .win ∧ outcome.rMultiple = some signal.gain ∧
      outcome.exitPrice = some signal.target.value ∧ outcome.exitTime = some candle.timestamp
  adverse : Reports (signal.movesAgainst (signal.seen candles)) outcome.adverse
  favourable : Reports (signal.movesFor (signal.seen candles)) outcome.favourable

namespace Reports

theorem unique {values : List Float} {left right : Option Float} (leftReports : Reports values left)
    (rightReports : Reports values right) : left = right := by
  apply Option.ext
  intro greatest
  rw [leftReports.present, rightReports.present]

end Reports

namespace EndsAs

theorem unique {signal : Signal} {candles : List Candle} {left right : Outcome}
    (leftEnds : EndsAs signal candles left) (rightEnds : EndsAs signal candles right) :
    left = right := by
  have ids := leftEnds.signalId.trans rightEnds.signalId.symm
  have adverses := leftEnds.adverse.unique rightEnds.adverse
  have favourables := leftEnds.favourable.unique rightEnds.favourable
  -- The other fields of both outcomes are told by the same first touch, if there is one.
  have rest : left.label = right.label ∧ left.rMultiple = right.rMultiple ∧
      left.exitPrice = right.exitPrice ∧ left.exitTime = right.exitTime := by
    cases found : candles.find? signal.touches with
    | none =>
        have untouched (candle : Candle) (member : candle ∈ candles) :
            ¬ signal.StopReached candle ∧ ¬ signal.TargetReached candle := by
          simpa using List.find?_eq_none.mp found candle member
        have leftEnding := leftEnds.untouched untouched
        have rightEnding := rightEnds.untouched untouched
        grind
    | some candle =>
        rcases List.find?_eq_some_iff_append.mp found with ⟨touched, before, rest, split, earlier⟩
        have untouched (candle : Candle) (member : candle ∈ before) :
            ¬ signal.StopReached candle ∧ ¬ signal.TargetReached candle := by
          simpa using earlier candle member
        by_cases stop : signal.StopReached candle
        · have leftEnding := leftEnds.stopped before candle rest split untouched stop
          have rightEnding := rightEnds.stopped before candle rest split untouched stop
          grind
        · have target := (Signal.touches_iff.mp touched).resolve_left stop
          have leftEnding := leftEnds.reached before candle rest split untouched stop target
          have rightEnding := rightEnds.reached before candle rest split untouched stop target
          grind
  cases left
  cases right
  grind

end EndsAs

theorem find?_touches {signal : Signal} {before rest : List Candle} {candle : Candle}
    (untouched : ∀ earlier ∈ before, ¬ signal.StopReached earlier ∧ ¬ signal.TargetReached earlier)
    (touched : signal.touches candle = true) :
    (before ++ candle :: rest).find? signal.touches = some candle :=
  List.find?_eq_some_iff_append.mpr ⟨touched, before, rest, rfl, by simpa using untouched⟩

theorem endsAs_replay (signal : Signal) (tieBreak : TieBreak) (candles : List Candle) :
    EndsAs signal candles (signal.replay tieBreak {} candles) := by
  rw [Signal.replay_eq, Signal.foldl_update]
  rcases signal.endedAt_excursion
      ⟨(moves signal Excursion.adverse? (signal.seen candles)).foldl greater 0.0,
        (moves signal Excursion.favourable? (signal.seen candles)).foldl greater 0.0⟩
      (candles.find? signal.touches) with ⟨signalId, adverse, favourable⟩
  refine ⟨signalId, ?_, ?_, ?_, ?_, ?_⟩
  · intro untouched
    rw [List.find?_eq_none.mpr (by simpa using untouched)]
    exact ⟨rfl, rfl, rfl, rfl⟩
  · intro before candle rest split untouched stop
    rw [split, find?_touches untouched (Signal.touches_iff.mpr (.inl stop)), Signal.endedAt,
      Signal.ended, if_pos (Signal.touchesStop_iff.mpr stop)]
    exact ⟨rfl, rfl, rfl, rfl⟩
  · intro before candle rest split untouched notStopped target
    rw [split, find?_touches untouched (Signal.touches_iff.mpr (.inr target)), Signal.endedAt,
      Signal.ended, if_neg (mt Signal.touchesStop_iff.mp notStopped), signal.gain_eq]
    exact ⟨rfl, rfl, rfl, rfl⟩
  · rw [adverse, signal.moves_adverse]
    exact reports_foldl_greater fun _ => Signal.isNegative_movesAgainst
  · rw [favourable, signal.moves_favourable]
    exact reports_foldl_greater fun _ => Signal.isNegative_movesFor

/-- Whatever the prices, an excursion is absent or above zero: also where the unit of risk is
undefined, where moves are infinite, and where they vanish in the quotient. -/
theorem absentOrPositive_tag (signal : Signal) (series : CandleSeries) (tieBreak : TieBreak) :
    AbsentOrPositive (signal.tag series tieBreak).adverse ∧
      AbsentOrPositive (signal.tag series tieBreak).favourable := by
  have ends := endsAs_replay signal tieBreak (series.after signal.timestamp)
  exact ⟨ends.adverse.absentOrPositive fun _ => Signal.isNegative_movesAgainst,
    ends.favourable.absentOrPositive fun _ => Signal.isNegative_movesFor⟩

@[simp]
theorem signalId_tag (signal : Signal) (series : CandleSeries) (tieBreak : TieBreak) :
    (signal.tag series tieBreak).signalId = signal.id :=
  (endsAs_replay signal tieBreak _).signalId

/-- Over a series made from candles in any order, a signal is tagged with the outcome that the
candles strictly after it, in the order of their timestamps, call for, and with no other. -/
theorem tag_ofList_eq_iff (signal : Signal) (candles : List Candle) (tieBreak : TieBreak)
    (outcome : Outcome) :
    signal.tag (.ofList candles) tieBreak = outcome ↔
      EndsAs signal
        ((candles.filter (Candle.isAfter signal.timestamp)).mergeSort Candle.notLater) outcome := by
  rw [Signal.tag, CandleSeries.after_ofList]
  constructor
  · rintro rfl
    exact endsAs_replay _ _ _
  · exact (endsAs_replay _ _ _).unique

namespace Signal

def longAtHundred (timestamp : Instant) : Signal where
  id := "s"
  timestamp := timestamp
  symbol := "EURUSD"
  timeframe := "M1"
  direction := .long
  kind := none
  entry := .ofFloat 100.0
  stop := .ofFloat 99.0
  target := .ofFloat 102.0
  session := none
  notes := []

def swing (timestamp : Instant) (low high : Float) : Candle where
  timestamp := timestamp
  opening := .ofFloat 100.0
  high := .ofFloat high
  low := .ofFloat low
  closing := .ofFloat 100.0
  volume := none

def shortAtHundred (timestamp : Instant) : Signal :=
  { longAtHundred timestamp with
    direction := .short, stop := .ofFloat 101.0, target := .ofFloat 98.0 }

end Signal

/-- The candles are given backwards, and the one at the time of the signal reaches everything. The
other two take a long trade 0.75 against and 2.5 in favour of it, and a short one 0.5 and 3. -/
theorem tag_ofList_at_the_target :
    let opened : Instant := ⟨0, 0, by decide, by decide, by decide⟩
    let minute : Instant := ⟨60, 0, by decide, by decide, by decide⟩
    let later : Instant := ⟨120, 0, by decide, by decide, by decide⟩
    let rising := [Signal.swing later 99.5 102.5, Signal.swing minute 99.25 101.0,
      Signal.swing opened 97.0 103.0]
    let falling := [Signal.swing later 97.0 100.25, Signal.swing minute 99.0 100.5,
      Signal.swing opened 97.0 103.0]
    let long := Signal.longAtHundred opened
    let short := Signal.shortAtHundred opened
    let wonLong : Outcome :=
      ⟨"s", .win, some (.ofFloat 2.0), some 0.75, some 2.5, some 102.0, some later⟩
    let wonShort : Outcome :=
      ⟨"s", .win, some (.ofFloat 2.0), some 0.5, some 3.0, some 98.0, some later⟩
    (long.tag (.ofList rising) .loss = wonLong ∧
        EndsAs long ((rising.filter (Candle.isAfter opened)).mergeSort Candle.notLater) wonLong) ∧
      short.tag (.ofList falling) .loss = wonShort ∧
        EndsAs short ((falling.filter (Candle.isAfter opened)).mergeSort Candle.notLater)
          wonShort := by
  intro opened minute later rising falling long short wonLong wonShort
  have inTime (first second third : Float) (firstHigh secondHigh thirdHigh : Float) :
      (CandleSeries.ofList [Signal.swing later first firstHigh, Signal.swing minute second secondHigh,
        Signal.swing opened third thirdHigh]).after opened =
        [Signal.swing minute second secondHigh, Signal.swing later first firstHigh] := by
    rw [CandleSeries.after_ofList]
    apply Sorting.mergeSort_eq_of_perm Candle.notLater_trans Candle.notLater_total
    · exact List.Perm.swap _ _ _
    · rw [List.pairwise_pair]
      rfl
    · have notBack : later.le minute = false := by decide
      simp [Sorting.alike, Candle.notLater, Signal.swing, notBack]
  have longTagged : long.tag (.ofList rising) .loss = wonLong := by
    rw [Signal.tag, show long.timestamp = opened from rfl, inTime]
    decide +kernel
  have shortTagged : short.tag (.ofList falling) .loss = wonShort := by
    rw [Signal.tag, show short.timestamp = opened from rfl, inTime]
    decide +kernel
  exact ⟨⟨longTagged, (tag_ofList_eq_iff long rising .loss wonLong).mp longTagged⟩,
    shortTagged, (tag_ofList_eq_iff short falling .loss wonShort).mp shortTagged⟩

end SignalReplay
