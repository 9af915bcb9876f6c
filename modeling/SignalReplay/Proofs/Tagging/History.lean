import SignalReplay.Proofs.Tagging.Replay

/-!
Outcomes over a history that grows. Candles that a decided replay never reaches do not change it;
candles in between can only decide it earlier; and while nothing is decided, excursions only grow.
-/

namespace SignalReplay

open Binary64

namespace Outcome

def IsDecided (outcome : Outcome) : Prop :=
  outcome.label = .win ∨ outcome.label = .loss

end Outcome

namespace Signal

/-! ## Where a replay ends -/

theorem endedAt_decided (signal : Signal) (excursion : Excursion) (candle? : Option Candle) :
    ((signal.endedAt excursion candle?).IsDecided ↔ candle?.isSome) ∧
      ((signal.endedAt excursion candle?).label = .unknown ↔ candle? = none) ∧
      (signal.endedAt excursion candle?).exitTime = candle?.map (·.timestamp) := by
  cases candle? with
  | none => simp [endedAt, unresolved, Outcome.IsDecided]
  | some candle =>
      cases stop : signal.touchesStop candle <;>
        simp [endedAt, ended, stop, lost, won, Outcome.IsDecided]

theorem isDecided_replay (signal : Signal) (tieBreak : TieBreak) (excursion : Excursion)
    (candles : List Candle) :
    (signal.replay tieBreak excursion candles).IsDecided ↔
      (candles.find? signal.touches).isSome := by
  rw [replay_eq]
  exact (signal.endedAt_decided _ _).1

theorem label_replay_eq_unknown (signal : Signal) (tieBreak : TieBreak) (excursion : Excursion)
    (candles : List Candle) :
    (signal.replay tieBreak excursion candles).label = .unknown ↔
      candles.find? signal.touches = none := by
  rw [replay_eq]
  exact (signal.endedAt_decided _ _).2.1

theorem exitTime_replay (signal : Signal) (tieBreak : TieBreak) (excursion : Excursion)
    (candles : List Candle) :
    (signal.replay tieBreak excursion candles).exitTime =
      (candles.find? signal.touches).map (·.timestamp) := by
  rw [replay_eq]
  exact (signal.endedAt_decided _ _).2.2

/-- Nothing behind the first candle that touches is looked at. -/
theorem replay_append {signal : Signal} {front : List Candle}
    (touched : ∃ candle ∈ front, signal.touches candle = true) (tieBreak : TieBreak)
    (excursion : Excursion) (back : List Candle) :
    signal.replay tieBreak excursion (front ++ back) =
      signal.replay tieBreak excursion front := by
  induction front generalizing excursion with
  | nil => simp at touched
  | cons candle rest induction =>
      rw [List.cons_append]
      cases first : signal.touches candle with
      | true => rw [replay_touched first, replay_touched first]
      | false =>
          rw [replay_untouched first, replay_untouched first]
          exact induction (by simpa [first, -touches_iff] using touched) _

theorem seen_of_untouched {signal : Signal} {candles : List Candle}
    (untouched : candles.find? signal.touches = none) : signal.seen candles = candles := by
  induction candles with
  | nil => rfl
  | cons candle rest induction =>
      rw [List.find?_eq_none] at untouched
      have first := untouched candle List.mem_cons_self
      rw [seen_cons, if_neg first, induction]
      rw [List.find?_eq_none]
      exact fun other member => untouched other (List.mem_cons_of_mem _ member)

end Signal

/-! ## Excursions -/

theorem reported_foldl_greater_mono {values more : List Float}
    (unsigned : ∀ value ∈ more, isNegative value = false)
    (kept : ∀ value ∈ values, value ∈ more) {move : Float}
    (found : Excursion.reported (values.foldl greater 0) = some move) :
    ∃ further, Excursion.reported (more.foldl greater 0) = some further ∧ move ≤ further := by
  have zero : (0 : Float).isNaN = false := by decide
  have reports := reports_foldl_greater fun value member => unsigned value (kept value member)
  rcases (reports.present move).mp found with ⟨⟨member, defined, -⟩, nonzero⟩
  have least := orderKey_member_le_foldl_greater zero (kept move member) defined
  have nonnegative := orderKey_nonneg (unsigned move (kept move member))
  have nonzeroKey := orderKey_ne_zero defined nonzero
  have furtherNonzero : (more.foldl greater 0 == 0) = false := by
    rw [← Bool.not_eq_true, beq_iff, orderKey_zero]
    rintro ⟨-, -, equal⟩
    omega
  refine ⟨more.foldl greater 0, ?_, le_iff.mpr ⟨defined, isNaN_foldl_greater zero more, least⟩⟩
  exact if_neg (by rw [Bool.not_eq_true]; exact furtherNonzero)

theorem excursions_replay_mono {signal : Signal} {candles more : List Candle}
    (untouched : candles.find? signal.touches = none)
    (moreUntouched : more.find? signal.touches = none)
    (kept : ∀ candle ∈ candles, candle ∈ more) (tieBreak : TieBreak) :
    (∀ move, (signal.replay tieBreak {} candles).adverse = some move →
        ∃ further, (signal.replay tieBreak {} more).adverse = some further ∧ move ≤ further) ∧
      ∀ move, (signal.replay tieBreak {} candles).favourable = some move →
        ∃ further, (signal.replay tieBreak {} more).favourable = some further ∧
          move ≤ further := by
  have movesKept (distance? : Signal → Candle → Option Float) (move : Float)
      (member : move ∈ moves signal distance? candles) : move ∈ moves signal distance? more := by
    rcases List.mem_map.mp member with ⟨distance, found, equal⟩
    rcases List.mem_filterMap.mp found with ⟨candle, inCandles, reached⟩
    exact List.mem_map.mpr
      ⟨distance, List.mem_filterMap.mpr ⟨candle, kept candle inCandles, reached⟩, equal⟩
  simp only [Signal.replay_eq, Signal.foldl_update, untouched, moreUntouched, Signal.endedAt,
    Signal.unresolved, Signal.seen_of_untouched]
  constructor
  · intro move
    exact reported_foldl_greater_mono (fun _ => isNegative_moves isNegative_adverse)
      (movesKept Excursion.adverse?)
  · intro move
    exact reported_foldl_greater_mono (fun _ => isNegative_moves isNegative_favourable)
      (movesKept Excursion.favourable?)

/-! ## Growing histories -/

namespace Signal

def future (signal : Signal) (candles : List Candle) : List Candle :=
  (candles.filter (Candle.isAfter signal.timestamp)).mergeSort Candle.notLater

theorem tag_ofList (signal : Signal) (candles : List Candle) (tieBreak : TieBreak) :
    signal.tag (.ofList candles) tieBreak =
      signal.replay tieBreak {} (signal.future candles) := by
  rw [tag, CandleSeries.after_ofList, future]

theorem tag_won_alone {signal : Signal} {candle : Candle}
    (isAfter : candle.isAfter signal.timestamp = true)
    (untouched : signal.touchesStop candle = false)
    (reached : signal.touchesTarget candle = true) (tieBreak : TieBreak) :
    (signal.tag (.ofList [candle]) tieBreak).label = .win ∧
      (signal.tag (.ofList [candle]) tieBreak).rMultiple = some (signal.reward / signal.risk) := by
  have alone : signal.future [candle] = [candle] := by
    rw [future, List.filter_cons_of_pos isAfter, List.filter_nil, List.mergeSort_singleton]
  rw [tag_ofList, alone]
  have ends := endsAs_replay signal tieBreak [candle]
  rcases ends.reached [] candle [] rfl (by simp) (by simp [← touchesStop_iff, untouched])
    (touchesTarget_iff.mp reached) with ⟨label, multiple, _⟩
  exact ⟨label, multiple.trans (congrArg some signal.gain_eq)⟩

theorem mem_future_append {signal : Signal} {candles : List Candle} (more : List Candle)
    {candle : Candle} (member : candle ∈ signal.future candles) :
    candle ∈ signal.future (candles ++ more) := by
  rw [future, List.mem_mergeSort] at member ⊢
  rw [List.filter_append]
  exact List.mem_append_left _ member

theorem pairwise_future (signal : Signal) (candles : List Candle) :
    (signal.future candles).Pairwise fun left right => left.notLater right = true :=
  List.pairwise_mergeSort Candle.notLater_trans Candle.notLater_total _

theorem tag_append_of_outside {signal : Signal} {candles more : List Candle} {exit : Instant}
    (tieBreak : TieBreak) (exited : (signal.tag (.ofList candles) tieBreak).exitTime = some exit)
    (outside : ∀ candle ∈ more, candle.timestamp ≤ signal.timestamp ∨ exit ≤ candle.timestamp) :
    signal.tag (.ofList (candles ++ more)) tieBreak = signal.tag (.ofList candles) tieBreak := by
  rw [tag_ofList, exitTime_replay] at exited
  rcases Option.map_eq_some_iff.mp exited with ⟨last, found, exitsAt⟩
  rcases List.find?_eq_some_iff_append.mp found with ⟨touched, before, rest, split, -⟩
  have ordered := signal.pairwise_future candles
  have split : signal.future candles = (before ++ [last]) ++ rest := by simp [split]
  have touchedFront : ∃ candle ∈ before ++ [last], signal.touches candle = true :=
    ⟨last, by simp, touched⟩
  -- All of the front is no later than the exit, and all that is new comes from the exit on.
  have behind : ∀ first ∈ before ++ [last],
      ∀ new ∈ more.filter (Candle.isAfter signal.timestamp), first.notLater new = true := by
    intro first inFront new isNew
    rcases List.mem_filter.mp isNew with ⟨member, isAfter⟩
    have reached : last.notLater new = true := by
      rcases outside new member with before | reached
      · have before : new.timestamp.le signal.timestamp = true := before
        simp [Candle.isAfter_eq_not_le, before] at isAfter
      · rw [← exitsAt] at reached
        exact reached
    rcases List.mem_append.mp inFront with inBefore | isLast
    · rw [split, List.pairwise_append, List.pairwise_append] at ordered
      exact Candle.notLater_trans _ _ _
        (ordered.1.2.2 first inBefore last List.mem_cons_self) reached
    · rwa [List.mem_singleton.mp isLast]
  have extended : signal.future (candles ++ more) = (before ++ [last]) ++
      (rest ++ more.filter (Candle.isAfter signal.timestamp)).mergeSort Candle.notLater := by
    rw [future, List.filter_append]
    exact Sorting.mergeSort_append Candle.notLater_trans Candle.notLater_total split behind
  rw [tag_ofList, tag_ofList, extended, split, replay_append touchedFront,
    replay_append touchedFront]

theorem isDecided_tag_append {signal : Signal} {candles : List Candle} (more : List Candle)
    {tieBreak : TieBreak} (decided : (signal.tag (.ofList candles) tieBreak).IsDecided) :
    (signal.tag (.ofList (candles ++ more)) tieBreak).IsDecided ∧
      ∃ exit earlier, (signal.tag (.ofList candles) tieBreak).exitTime = some exit ∧
        (signal.tag (.ofList (candles ++ more)) tieBreak).exitTime = some earlier ∧
        earlier ≤ exit := by
  simp only [tag_ofList, isDecided_replay, exitTime_replay] at decided ⊢
  rcases Option.isSome_iff_exists.mp decided with ⟨last, found⟩
  have member := mem_future_append more (List.mem_of_find?_eq_some found)
  rcases Sorting.find?_of_pairwise Candle.notLater_total (signal.pairwise_future _) member
    (List.find?_some found) with ⟨first, foundFirst, notLater⟩
  rw [found, foundFirst]
  exact ⟨rfl, last.timestamp, first.timestamp, rfl, rfl, notLater⟩

/-- More candles do not rewrite a decided outcome. Those that lie before the signal or not before
the exit change nothing at all, others leave the signal decided and let it exit no later, and as
long as nothing is decided every excursion stays and does not shrink. -/
theorem tag_append (signal : Signal) (candles more : List Candle) (tieBreak : TieBreak) :
    let known := signal.tag (.ofList candles) tieBreak
    let extended := signal.tag (.ofList (candles ++ more)) tieBreak
    (known.IsDecided → ∀ exit, known.exitTime = some exit →
      (∀ candle ∈ more, candle.timestamp ≤ signal.timestamp ∨ exit ≤ candle.timestamp) →
      extended = known) ∧
    (known.IsDecided → extended.IsDecided ∧ ∃ exit earlier, known.exitTime = some exit ∧
      extended.exitTime = some earlier ∧ earlier ≤ exit) ∧
    (known.label = .unknown → extended.label = .unknown →
      (∀ move, known.adverse = some move →
        ∃ further, extended.adverse = some further ∧ move ≤ further) ∧
      ∀ move, known.favourable = some move →
        ∃ further, extended.favourable = some further ∧ move ≤ further) := by
  refine ⟨fun _ exit => tag_append_of_outside tieBreak, isDecided_tag_append more, ?_⟩
  intro unknown stillUnknown
  rw [tag_ofList, label_replay_eq_unknown] at unknown stillUnknown
  rw [tag_ofList, tag_ofList]
  exact excursions_replay_mono unknown stillUnknown
    (fun _ member => mem_future_append more member) tieBreak

/-- The target is reached after a minute. Candles that touch the stop at the time of the signal and
again in the very minute of the exit come too late. Half a unit gained is still there after a
further minute that gains nothing. -/
theorem tag_append_at_the_exit :
    let opened : Instant := ⟨0, 0, by decide, by decide, by decide⟩
    let signal := longAtHundred opened
    let minute : Instant := ⟨60, 0, by decide, by decide, by decide⟩
    let later : Instant := ⟨120, 0, by decide, by decide, by decide⟩
    let gain := swing minute 100.0 103.0
    let falls := [swing opened 98.0 100.0, swing minute 98.0 100.0]
    let half := swing minute 100.0 100.5
    let still := swing later 100.0 100.0
    ((signal.tag (.ofList [gain]) .loss).IsDecided ∧
      (signal.tag (.ofList [gain]) .loss).exitTime = some minute ∧
      (∀ candle ∈ falls,
        candle.timestamp ≤ signal.timestamp ∨ minute ≤ candle.timestamp) ∧
      signal.tag (.ofList ([gain] ++ falls)) .loss =
        signal.tag (.ofList [gain]) .loss) ∧
    (signal.tag (.ofList [half]) .loss).label = .unknown ∧
      (signal.tag (.ofList ([half] ++ [still])) .loss).label = .unknown ∧
      (signal.tag (.ofList [half]) .loss).favourable = some 0.5 ∧
      ∃ further, (signal.tag (.ofList ([half] ++ [still])) .loss).favourable =
        some further ∧ 0.5 ≤ further := by
  intro opened signal minute later gain falls half still
  have alone (candle : Candle) (isAfter : candle.isAfter signal.timestamp = true) :
      signal.future [candle] = [candle] := by
    rw [future, List.filter_cons_of_pos isAfter, List.filter_nil, List.mergeSort_singleton]
  have gainTag : signal.tag (.ofList [gain]) .loss =
      signal.replay .loss {} [gain] := by
    rw [tag_ofList, alone gain (by decide)]
  have halfTag : signal.tag (.ofList [half]) .loss =
      signal.replay .loss {} [half] := by
    rw [tag_ofList, alone half (by decide)]
  have stillTag : signal.tag (.ofList ([half] ++ [still])) .loss =
      signal.replay .loss {} [half, still] := by
    have all : ([half] ++ [still]).filter (Candle.isAfter signal.timestamp) =
        [half, still] := by decide
    rw [tag_ofList, future, all, List.mergeSort_of_pairwise (by decide)]
  have decided : (signal.tag (.ofList [gain]) .loss).IsDecided := by
    rw [gainTag]
    exact .inl (by decide)
  have exited : (signal.tag (.ofList [gain]) .loss).exitTime = some minute := by
    rw [gainTag]
    decide
  have outside : ∀ candle ∈ falls,
      candle.timestamp ≤ signal.timestamp ∨ minute ≤ candle.timestamp := by decide
  have unknown : (signal.tag (.ofList [half]) .loss).label = .unknown := by
    rw [halfTag]
    decide
  have stillUnknown :
      (signal.tag (.ofList ([half] ++ [still])) .loss).label = .unknown := by
    rw [stillTag]
    decide
  have gained : (signal.tag (.ofList [half]) .loss).favourable = some 0.5 := by
    rw [halfTag]
    decide +kernel
  rcases tag_append signal [gain] falls .loss with ⟨kept, -, -⟩
  rcases tag_append signal [half] [still] .loss with ⟨-, -, grown⟩
  exact ⟨⟨decided, exited, outside, kept decided minute exited outside⟩,
    unknown, stillUnknown, gained, (grown unknown stillUnknown).2 0.5 gained⟩

end Signal

end SignalReplay
