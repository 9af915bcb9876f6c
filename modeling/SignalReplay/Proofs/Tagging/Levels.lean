import SignalReplay.Proofs.Tagging.Prices
import SignalReplay.Proofs.Tagging.History

/-!
Stops and targets that are moved. A signal whose stop is tighter or whose target is nearer is
touched by more candles, so it is decided no later, and where a candle that only the moved price
lets touch comes first, it is that price at which the signal leaves.
-/

namespace SignalReplay

open Binary64

def Outcome.ExitsNoLater (outcome other : Outcome) : Prop :=
  ∃ exit otherExit, outcome.exitTime = some exit ∧ other.exitTime = some otherExit ∧
    exit ≤ otherExit

namespace Signal

/-! ## The deciding candle -/

def deciding? (signal : Signal) (series : CandleSeries) : Option Candle :=
  (series.after signal.timestamp).find? signal.touches

variable {signal : Signal} {series : CandleSeries} {tieBreak : TieBreak}

def labelAt (signal : Signal) : Option Candle → OutcomeLabel
  | none => .unknown
  | some candle => if signal.touchesStop candle then .loss else .win

@[simp]
theorem label_tag : (signal.tag series tieBreak).label =
    signal.labelAt (signal.deciding? series) := by
  rw [tag, replay_eq, ← deciding?]
  cases signal.deciding? series with
  | none => rfl
  | some candle =>
      rw [endedAt, ended, labelAt]
      split <;> rfl

theorem label_tag_eq_win_iff :
    (signal.tag series tieBreak).label = .win ↔
      ∃ candle, signal.deciding? series = some candle ∧ signal.touchesStop candle = false := by
  rw [label_tag]
  cases signal.deciding? series <;> simp [labelAt]

theorem label_tag_eq_loss_iff :
    (signal.tag series tieBreak).label = .loss ↔
      ∃ candle, signal.deciding? series = some candle ∧ signal.touchesStop candle = true := by
  rw [label_tag]
  cases signal.deciding? series <;> simp [labelAt]

theorem exitTime_tag {candle : Candle} (decided : signal.deciding? series = some candle) :
    (signal.tag series tieBreak).exitTime = some candle.timestamp := by
  rw [tag, exitTime_replay, ← deciding?, decided, Option.map_some]

theorem exitPrice_tag_of_win (win : (signal.tag series tieBreak).label = .win) :
    (signal.tag series tieBreak).exitPrice = some signal.target.value := by
  cases ending_tag signal series tieBreak with
  | unresolved label => rw [label] at win; cases win
  | lost label => rw [label] at win; cases win
  | won _ _ exit => exact exit

/-! ## Signals that are touched more often -/

/-- Whatever touches one signal touches another signal of the same time. -/
structure TouchesLess (fewer more : Signal) : Prop where
  timestamp : more.timestamp = fewer.timestamp
  stop : ∀ candle, fewer.touchesStop candle = true → more.touchesStop candle = true
  target : ∀ candle, fewer.touchesTarget candle = true → more.touchesTarget candle = true

namespace TouchesLess

variable {fewer more : Signal} {candle : Candle}

theorem touches (less : fewer.TouchesLess more) (touched : fewer.touches candle = true) :
    more.touches candle = true := by
  unfold Signal.touches at touched ⊢
  rw [Bool.or_eq_true] at touched ⊢
  exact touched.imp (less.stop candle) (less.target candle)

theorem deciding?_of_touches (less : fewer.TouchesLess more)
    (decided : more.deciding? series = some candle) (touched : fewer.touches candle = true) :
    fewer.deciding? series = some candle := by
  unfold deciding? at decided ⊢
  rw [less.timestamp] at decided
  rcases List.find?_eq_some_iff_append.mp decided with ⟨-, before, rest, split, untouched⟩
  refine List.find?_eq_some_iff_append.mpr ⟨touched, before, rest, split, ?_⟩
  intro earlier member
  cases early : fewer.touches earlier with
  | false => rfl
  | true => exact absurd (less.touches early) (by simpa using untouched earlier member)

/-- The signal touched more often is decided no later, and if not at the same candle, then at one
that does not touch the other signal. -/
theorem exists_deciding? (less : fewer.TouchesLess more)
    (decided : fewer.deciding? series = some candle) :
    ∃ first, more.deciding? series = some first ∧ first.timestamp ≤ candle.timestamp ∧
      (first = candle ∨ fewer.touches first = false) := by
  have ordered : (series.after more.timestamp).Pairwise fun left right =>
      left.notLater right = true :=
    series.ordered.sublist (List.drop_sublist _ _)
  have member : candle ∈ series.after more.timestamp := by
    rw [less.timestamp]
    exact List.mem_of_find?_eq_some decided
  rcases Sorting.find?_of_pairwise Candle.notLater_total ordered member
    (less.touches (List.find?_some decided)) with ⟨first, found, notLater⟩
  refine ⟨first, found, notLater, ?_⟩
  cases touched : fewer.touches first with
  | false => exact .inr rfl
  | true =>
      have same := less.deciding?_of_touches found touched
      rw [decided] at same
      exact .inl (Option.some.inj same).symm

/-! ## Tighter stops -/

section

variable (less : fewer.TouchesLess more)
  (sameTarget : ∀ candle, more.touchesTarget candle = fewer.touchesTarget candle)

include less sameTarget

theorem win_of_tighter_win (win : (more.tag series tieBreak).label = .win) :
    (fewer.tag series tieBreak).label = .win ∧
      (fewer.tag series tieBreak).exitTime = (more.tag series tieBreak).exitTime := by
  rcases label_tag_eq_win_iff.mp win with ⟨candle, decided, notStopped⟩
  have touched := List.find?_some decided
  rw [Signal.touches, notStopped, Bool.false_or, sameTarget] at touched
  have fewerDecided : fewer.deciding? series = some candle :=
    less.deciding?_of_touches decided (by rw [Signal.touches, touched, Bool.or_true])
  have fewerNotStopped : fewer.touchesStop candle = false := by
    rw [← Bool.not_eq_true] at notStopped ⊢
    exact fun stopped => notStopped (less.stop candle stopped)
  exact ⟨label_tag_eq_win_iff.mpr ⟨candle, fewerDecided, fewerNotStopped⟩,
    (exitTime_tag fewerDecided).trans (exitTime_tag decided).symm⟩

theorem loss_of_wider_loss (loss : (fewer.tag series tieBreak).label = .loss) :
    (more.tag series tieBreak).label = .loss ∧
      (more.tag series tieBreak).ExitsNoLater (fewer.tag series tieBreak) := by
  rcases label_tag_eq_loss_iff.mp loss with ⟨candle, decided, stopped⟩
  rcases less.exists_deciding? decided with ⟨first, moreDecided, notLater, early⟩
  have moreStopped : more.touchesStop first = true := by
    rcases early with rfl | untouched
    · exact less.stop first stopped
    · -- Only the stops differ, so a candle that touches one signal alone touches its stop.
      have touched := List.find?_some moreDecided
      rw [Signal.touches, Bool.or_eq_false_iff] at untouched
      rwa [Signal.touches, sameTarget, untouched.2, Bool.or_false] at touched
  exact ⟨label_tag_eq_loss_iff.mpr ⟨first, moreDecided, moreStopped⟩,
    first.timestamp, candle.timestamp, exitTime_tag moreDecided, exitTime_tag decided, notLater⟩

end

/-! ## Nearer targets -/

section

variable (less : fewer.TouchesLess more)
  (sameStop : ∀ candle, more.touchesStop candle = fewer.touchesStop candle)

include less sameStop

theorem win_of_farther_win (win : (fewer.tag series tieBreak).label = .win) :
    (more.tag series tieBreak).label = .win ∧
      (more.tag series tieBreak).ExitsNoLater (fewer.tag series tieBreak) := by
  rcases label_tag_eq_win_iff.mp win with ⟨candle, decided, notStopped⟩
  rcases less.exists_deciding? decided with ⟨first, moreDecided, notLater, early⟩
  have moreNotStopped : more.touchesStop first = false := by
    rw [sameStop]
    rcases early with rfl | untouched
    · exact notStopped
    · rw [Signal.touches, Bool.or_eq_false_iff] at untouched
      exact untouched.1
  exact ⟨label_tag_eq_win_iff.mpr ⟨first, moreDecided, moreNotStopped⟩,
    first.timestamp, candle.timestamp, exitTime_tag moreDecided, exitTime_tag decided, notLater⟩

theorem loss_of_nearer_loss (loss : (more.tag series tieBreak).label = .loss) :
    (fewer.tag series tieBreak).label = .loss ∧
      (fewer.tag series tieBreak).exitTime = (more.tag series tieBreak).exitTime := by
  rcases label_tag_eq_loss_iff.mp loss with ⟨candle, decided, stopped⟩
  rw [sameStop] at stopped
  have fewerDecided : fewer.deciding? series = some candle :=
    less.deciding?_of_touches decided (by rw [Signal.touches, stopped, Bool.true_or])
  exact ⟨label_tag_eq_loss_iff.mpr ⟨candle, fewerDecided, stopped⟩,
    (exitTime_tag fewerDecided).trans (exitTime_tag decided).symm⟩

end

end TouchesLess

/-! ## Moved prices -/

/-- Whether another stop is at least as near to the price of a trade that goes well. -/
def IsTighter (signal : Signal) (stop : Quantity) : Prop :=
  match signal.direction with
  | .long => signal.stop.value ≤ stop.value
  | .short => stop.value ≤ signal.stop.value

def IsNearer (signal : Signal) (target : Quantity) : Prop :=
  match signal.direction with
  | .long => target.value ≤ signal.target.value
  | .short => signal.target.value ≤ target.value

theorem touchesLess_of_isTighter {stop : Quantity} (tighter : signal.IsTighter stop) :
    signal.TouchesLess { signal with stop } := by
  refine ⟨rfl, fun candle touched => ?_, fun _ touched => touched⟩
  unfold IsTighter at tighter
  unfold touchesStop at touched ⊢
  cases direction : signal.direction with
  | long =>
      simp only [direction, decide_eq_true_eq] at tighter touched ⊢
      exact le_of_le_of_le touched tighter
  | short =>
      simp only [direction, decide_eq_true_eq] at tighter touched ⊢
      exact le_of_le_of_le tighter touched

theorem touchesLess_of_isNearer {target : Quantity} (nearer : signal.IsNearer target) :
    signal.TouchesLess { signal with target } := by
  refine ⟨rfl, fun _ touched => touched, fun candle touched => ?_⟩
  unfold IsNearer at nearer
  unfold touchesTarget at touched ⊢
  cases direction : signal.direction with
  | long =>
      simp only [direction, decide_eq_true_eq] at nearer touched ⊢
      exact le_of_le_of_le nearer touched
  | short =>
      simp only [direction, decide_eq_true_eq] at nearer touched ⊢
      exact le_of_le_of_le touched nearer

/-- Tagging is monotone in stop and target, whatever the prices. Of two signals that differ in
their stops alone, the wider one wins as the tighter one does, and where the wider one loses, the
tighter one has lost by then. Of two signals that differ in their targets alone, the nearer one has
won by the time the farther one wins, and where the nearer one loses, so does the farther one. -/
theorem tag_monotone (signal : Signal) (series : CandleSeries) (tieBreak : TieBreak) :
    (∀ stop, signal.IsTighter stop →
      let wider := signal.tag series tieBreak
      let tighter := { signal with stop }.tag series tieBreak
      (tighter.label = .win → wider.label = .win ∧ wider.exitTime = tighter.exitTime ∧
        wider.exitPrice = tighter.exitPrice) ∧
      (wider.label = .loss → tighter.label = .loss ∧ tighter.ExitsNoLater wider)) ∧
    (∀ target, signal.IsNearer target →
      let farther := signal.tag series tieBreak
      let nearer := { signal with target }.tag series tieBreak
      (farther.label = .win → nearer.label = .win ∧ nearer.ExitsNoLater farther) ∧
      (nearer.label = .loss → farther.label = .loss ∧ farther.exitTime = nearer.exitTime)) := by
  constructor
  · intro stop tighter
    have less := touchesLess_of_isTighter tighter
    refine ⟨fun win => ?_, less.loss_of_wider_loss fun _ => rfl⟩
    rcases less.win_of_tighter_win (fun _ => rfl) win with ⟨widerWins, sameTime⟩
    refine ⟨widerWins, sameTime, ?_⟩
    rw [exitPrice_tag_of_win widerWins, exitPrice_tag_of_win win]
  · intro target nearer
    have less := touchesLess_of_isNearer nearer
    exact ⟨less.win_of_farther_win fun _ => rfl, less.loss_of_nearer_loss fun _ => rfl⟩

/-- A fall in two steps touches the tighter stop first and then the wider one; a rise in two steps
reaches the nearer target first and touches no stop. -/
theorem tag_monotone_at_moved_prices :
    let opened : Instant := ⟨0, 0, by decide, by decide, by decide⟩
    let minute : Instant := ⟨60, 0, by decide, by decide, by decide⟩
    let later : Instant := ⟨120, 0, by decide, by decide, by decide⟩
    let falling := [swing minute 99.25 100.0, swing later 98.0 100.0]
    let rising := [swing minute 100.0 101.5, swing later 100.0 103.0]
    let signal := longAtHundred opened
    let tighter := { signal with stop := .ofFloat 99.5 }
    let nearer := { signal with target := .ofFloat 101.0 }
    signal.IsTighter (.ofFloat 99.5) ∧ signal.IsNearer (.ofFloat 101.0) ∧
      ((tighter.tag (.ofList rising) .loss).label = .win ∧
        (signal.tag (.ofList rising) .loss).label = .win ∧
        (signal.tag (.ofList rising) .loss).exitTime =
          (tighter.tag (.ofList rising) .loss).exitTime ∧
        (signal.tag (.ofList rising) .loss).exitPrice =
          (tighter.tag (.ofList rising) .loss).exitPrice) ∧
      ((signal.tag (.ofList falling) .loss).label = .loss ∧
        (tighter.tag (.ofList falling) .loss).label = .loss ∧
        (tighter.tag (.ofList falling) .loss).ExitsNoLater
          (signal.tag (.ofList falling) .loss)) ∧
      ((signal.tag (.ofList rising) .loss).label = .win ∧
        (nearer.tag (.ofList rising) .loss).label = .win ∧
        (nearer.tag (.ofList rising) .loss).ExitsNoLater
          (signal.tag (.ofList rising) .loss)) ∧
      ((nearer.tag (.ofList falling) .loss).label = .loss ∧
        (signal.tag (.ofList falling) .loss).label = .loss ∧
        (signal.tag (.ofList falling) .loss).exitTime =
          (nearer.tag (.ofList falling) .loss).exitTime) := by
  intro opened minute later falling rising signal tighter nearer
  have replayed (moved : Signal) (candles : List Candle) (same : moved.timestamp = opened)
      (kept : candles.filter (Candle.isAfter opened) = candles)
      (ordered : candles.Pairwise fun left right => left.notLater right = true) :
      moved.tag (.ofList candles) .loss = moved.replay .loss {} candles := by
    rw [tag_ofList, future, same, kept, List.mergeSort_of_pairwise ordered]
  have isTighter : signal.IsTighter (.ofFloat 99.5) := by
    change (99.0 : Float) ≤ 99.5
    decide
  have isNearer : signal.IsNearer (.ofFloat 101.0) := by
    change (101.0 : Float) ≤ 102.0
    decide
  have tighterWins : (tighter.tag (.ofList rising) .loss).label = .win := by
    rw [replayed tighter rising rfl (by decide) (by decide)]
    decide
  have signalWins : (signal.tag (.ofList rising) .loss).label = .win := by
    rw [replayed signal rising rfl (by decide) (by decide)]
    decide
  have signalLoses : (signal.tag (.ofList falling) .loss).label = .loss := by
    rw [replayed signal falling rfl (by decide) (by decide)]
    decide
  have nearerLoses : (nearer.tag (.ofList falling) .loss).label = .loss := by
    rw [replayed nearer falling rfl (by decide) (by decide)]
    decide
  rcases tag_monotone signal (.ofList rising) .loss with ⟨stopsRising, targetsRising⟩
  rcases tag_monotone signal (.ofList falling) .loss with ⟨stopsFalling, targetsFalling⟩
  exact ⟨isTighter, isNearer,
    ⟨tighterWins, (stopsRising _ isTighter).1 tighterWins⟩,
    ⟨signalLoses, (stopsFalling _ isTighter).2 signalLoses⟩,
    ⟨signalWins, (targetsRising _ isNearer).1 signalWins⟩,
    ⟨nearerLoses, (targetsFalling _ isNearer).2 nearerLoses⟩⟩

end Signal

end SignalReplay
