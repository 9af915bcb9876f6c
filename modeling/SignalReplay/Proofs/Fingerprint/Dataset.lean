import SignalReplay.Proofs.Fingerprint.Delimited
import SignalReplay.Proofs.Tagging.Replay

/-!
What the bytes of a dataset tell. Given the number of candles they tell every field that a replay
reads, except that of two instants in one microsecond they do not say which is meant. Outcomes are
therefore the same for datasets with the same bytes exactly as long as no such two instants occur.
-/

namespace SignalReplay

/-! ## Fields a replay reads -/

theorem Instant.eq_of_not_lt {left right : Instant} (notLess : left.lt right = false)
    (notGreater : right.lt left = false) : left = right := by
  rw [← Bool.not_eq_true, ← Instant.not_le] at notLess notGreater
  cases left
  cases right
  simp only [Instant.le, Instant.mk.injEq] at *
  grind

namespace Candle

def withoutVolume (candle : Candle) : Candle :=
  { candle with volume := none }

end Candle

namespace Signal

def withoutNotes (signal : Signal) : Signal :=
  { signal with notes := [] }

theorem replay_withoutVolume (signal : Signal) (tieBreak : TieBreak) (excursion : Excursion)
    (candles : List Candle) :
    signal.replay tieBreak excursion (candles.map Candle.withoutVolume) =
      signal.replay tieBreak excursion candles := by
  induction candles generalizing excursion with
  | nil => rfl
  | cons candle rest induction =>
      rw [List.map_cons]
      cases touched : signal.touches candle with
      | true =>
          have touchedWithout : signal.touches candle.withoutVolume = true := touched
          rw [replay_touched touched, replay_touched touchedWithout]
          rfl
      | false =>
          have untouched : signal.touches candle.withoutVolume = false := touched
          rw [replay_untouched touched, replay_untouched untouched]
          exact induction _

theorem replay_withoutNotes (signal : Signal) (tieBreak : TieBreak) (excursion : Excursion)
    (candles : List Candle) :
    signal.withoutNotes.replay tieBreak excursion candles =
      signal.replay tieBreak excursion candles := by
  induction candles generalizing excursion with
  | nil => rfl
  | cons candle rest induction =>
      cases touched : signal.touches candle with
      | true =>
          have touchedWithout : signal.withoutNotes.touches candle = true := touched
          rw [replay_touched touched, replay_touched touchedWithout]
          rfl
      | false =>
          have untouched : signal.withoutNotes.touches candle = false := touched
          rw [replay_untouched touched, replay_untouched untouched]
          exact induction _

/-- Volumes and notes have no part in an outcome. -/
theorem tag_eq_replay (signal : Signal) (series : CandleSeries) (tieBreak : TieBreak) :
    signal.tag series tieBreak =
      signal.withoutNotes.replay tieBreak {} ((series.toList.map Candle.withoutVolume).filter
        (Candle.isAfter signal.withoutNotes.timestamp)) := by
  have selected : (series.toList.map Candle.withoutVolume).filter
      (Candle.isAfter signal.withoutNotes.timestamp) =
      (series.after signal.timestamp).map Candle.withoutVolume := by
    rw [CandleSeries.after_eq_filter, List.filter_map]
    rfl
  rw [selected, replay_withoutNotes, replay_withoutVolume]
  rfl

end Signal

theorem tagAll_congr {left right : CandleSeries} {leftSignals rightSignals : List Signal}
    (candles : left.toList.map Candle.withoutVolume = right.toList.map Candle.withoutVolume)
    (signals : leftSignals.map Signal.withoutNotes = rightSignals.map Signal.withoutNotes)
    (tieBreak : TieBreak) :
    tagAll leftSignals left tieBreak = tagAll rightSignals right tieBreak := by
  have viaFields (series : CandleSeries) (signals : List Signal) :
      tagAll signals series tieBreak = (signals.map Signal.withoutNotes).map fun signal =>
        signal.replay tieBreak {} ((series.toList.map Candle.withoutVolume).filter
          (Candle.isAfter signal.timestamp)) := by
    rw [List.map_map]
    apply List.map_congr_left
    intro signal _
    exact signal.tag_eq_replay series tieBreak
  rw [viaFields, viaFields, candles, signals]

namespace Fingerprint

/-! ## Fields the bytes tell -/

def candleView (candle : Candle) :
    ((((Int × Quantity) × Quantity) × Quantity) × Quantity) × Unit :=
  (((((candle.timestamp.micros, candle.opening), candle.high), candle.low), candle.closing), ())

theorem candleBytes_delimits : Delimits (fun _ => True) candleBytes candleView :=
  (((((instantBytes_delimits.field Candle.timestamp fun _ _ => trivial).append
    (quantityBytes_delimits.field Candle.opening fun _ _ => trivial)).append
    (quantityBytes_delimits.field Candle.high fun _ _ => trivial)).append
    (quantityBytes_delimits.field Candle.low fun _ _ => trivial)).append
    (quantityBytes_delimits.field Candle.closing fun _ _ => trivial)).append
    (volumeBytes_delimits.field Candle.volume fun _ _ => trivial)

structure TextsFit (signal : Signal) : Prop where
  id : Fits signal.id
  symbol : Fits signal.symbol
  timeframe : Fits signal.timeframe
  kind : ∀ text ∈ signal.kind, Fits text
  session : ∀ text ∈ signal.session, Fits text

def signalView (signal : Signal) :
    ((((((((String × Int) × String) × String) × Direction) × Option String) × Option String) ×
      Quantity) × Quantity) × Quantity :=
  (((((((((signal.id, signal.timestamp.micros), signal.symbol), signal.timeframe),
    signal.direction), signal.kind), signal.session), signal.entry), signal.stop), signal.target)

theorem signalBytes_delimits : Delimits TextsFit signalBytes signalView :=
  (((((((((textBytes_delimits.field Signal.id fun _ fit => fit.id).append
    (instantBytes_delimits.field Signal.timestamp fun _ _ => trivial)).append
    (textBytes_delimits.field Signal.symbol fun _ fit => fit.symbol)).append
    (textBytes_delimits.field Signal.timeframe fun _ fit => fit.timeframe)).append
    (directionBytes_delimits.field Signal.direction fun _ _ => trivial)).append
    (optionalTextBytes_delimits.field Signal.kind fun _ fit => fit.kind)).append
    (optionalTextBytes_delimits.field Signal.session fun _ fit => fit.session)).append
    (quantityBytes_delimits.field Signal.entry fun _ _ => trivial)).append
    (quantityBytes_delimits.field Signal.stop fun _ _ => trivial)).append
    (quantityBytes_delimits.field Signal.target fun _ _ => trivial)

theorem candleBytes_eq (candle : Candle) :
    ∃ prices, candleBytes candle = instantBytes candle.timestamp ++ prices := by
  unfold candleBytes
  simp only [List.append_assoc]
  exact ⟨_, rfl⟩

theorem signalBytes_eq (signal : Signal) :
    ∃ fields, signalBytes signal = word64 (Utf8.encode signal.id).length ++ fields := by
  unfold signalBytes textBytes
  simp only [List.append_assoc]
  exact ⟨_, rfl⟩

theorem word64_append_ne_nil (value : Nat) (rest : List UInt8) : word64 value ++ rest ≠ [] := by
  intro empty
  have length := congrArg List.length empty
  simp at length

theorem candleBytes_ne_nil (candle : Candle) : candleBytes candle ≠ [] := by
  rcases candleBytes_eq candle with ⟨prices, equal⟩
  rw [equal]
  exact word64_append_ne_nil _ prices

theorem signalBytes_ne_nil (signal : Signal) : signalBytes signal ≠ [] := by
  rcases signalBytes_eq signal with ⟨fields, equal⟩
  rw [equal]
  exact word64_append_ne_nil _ fields

/-! ## Candles and signals -/

/-- No candle begins with the bytes that a signal begins with: its microseconds are not the length
of an identifier. -/
def Apart (candles : List Candle) (signals : List Signal) : Prop :=
  ∀ candle ∈ candles, ∀ signal ∈ signals,
    instantBytes candle.timestamp ≠ word64 (Utf8.encode signal.id).length

theorem eq_nil_of_apart {candles : List Candle} {signals : List Signal}
    (apart : Apart candles signals) {rest : List UInt8}
    (equal : candles.flatMap candleBytes ++ rest = signals.flatMap signalBytes) :
    candles = [] := by
  cases candles with
  | nil => rfl
  | cons candle candles =>
      cases signals with
      | nil =>
          rw [List.flatMap_cons, List.flatMap_nil, List.append_assoc,
            List.append_eq_nil_iff] at equal
          exact absurd equal.1 (candleBytes_ne_nil candle)
      | cons signal signals =>
          -- Both begin with a word of eight bytes, and it would be the same word.
          rcases candleBytes_eq candle with ⟨prices, candleEqual⟩
          rcases signalBytes_eq signal with ⟨fields, signalEqual⟩
          rw [List.flatMap_cons, List.flatMap_cons, candleEqual, signalEqual, List.append_assoc,
            List.append_assoc, List.append_assoc] at equal
          have words := (List.append_inj equal
            ((length_word64 _).trans (length_word64 _).symm)).1
          exact absurd words (apart candle List.mem_cons_self signal List.mem_cons_self)

theorem length_eq_of_apart {lefts rights : List Candle} {leftSignals rightSignals : List Signal}
    (leftApart : Apart lefts rightSignals) (rightApart : Apart rights leftSignals)
    (equal : lefts.flatMap candleBytes ++ leftSignals.flatMap signalBytes =
      rights.flatMap candleBytes ++ rightSignals.flatMap signalBytes) :
    lefts.length = rights.length := by
  induction lefts generalizing rights with
  | nil => rw [eq_nil_of_apart rightApart equal.symm]
  | cons left lefts induction =>
      cases rights with
      | nil => exact congrArg List.length (eq_nil_of_apart leftApart equal)
      | cons right rights =>
          rw [List.flatMap_cons, List.flatMap_cons, List.append_assoc, List.append_assoc] at equal
          have after := (candleBytes_delimits trivial trivial equal).2
          exact congrArg Nat.succ (induction
            (fun candle member => leftApart candle (List.mem_cons_of_mem _ member))
            (fun candle member => rightApart candle (List.mem_cons_of_mem _ member)) after)

/-- The bytes of two datasets cannot hold a candle of one where they hold a signal of the other. -/
def Aligned (left right : CandleSeries) (leftSignals rightSignals : List Signal) : Prop :=
  left.size = right.size ∨ Apart left.toList rightSignals ∧ Apart right.toList leftSignals

theorem views_of_datasetBytes {left right : CandleSeries} {leftSignals rightSignals : List Signal}
    (aligned : Aligned left right leftSignals rightSignals)
    (leftFit : ∀ signal ∈ leftSignals, TextsFit signal)
    (rightFit : ∀ signal ∈ rightSignals, TextsFit signal)
    (equal : datasetBytes left leftSignals = datasetBytes right rightSignals) :
    left.toList.map candleView = right.toList.map candleView ∧
      leftSignals.map signalView = rightSignals.map signalView := by
  have length : left.toList.length = right.toList.length := by
    rcases aligned with sizes | ⟨leftApart, rightApart⟩
    · exact sizes
    · exact length_eq_of_apart leftApart rightApart equal
  rcases candleBytes_delimits.flatMap_of_length (fun _ _ => trivial) (fun _ _ => trivial) length
    equal with ⟨candles, after⟩
  exact ⟨candles, signalBytes_delimits.flatMap signalBytes_ne_nil leftFit rightFit after⟩

/-- A dataset whose instants are among given ones and whose texts have lengths that fit. -/
structure DrawnFrom (instants : Instant → Prop) (series : CandleSeries) (signals : List Signal) :
    Prop where
  candles_drawn : ∀ candle ∈ series.toList, instants candle.timestamp
  signals_drawn : ∀ signal ∈ signals, instants signal.timestamp
  texts_fit : ∀ signal ∈ signals, TextsFit signal

theorem withoutVolume_eq {left right : Candle} (instants : left.timestamp = right.timestamp)
    (views : candleView left = candleView right) : left.withoutVolume = right.withoutVolume := by
  cases left
  cases right
  simp only [candleView, Prod.mk.injEq] at views instants
  simp only [Candle.withoutVolume, Candle.mk.injEq]
  grind

theorem withoutNotes_eq {left right : Signal} (instants : left.timestamp = right.timestamp)
    (views : signalView left = signalView right) : left.withoutNotes = right.withoutNotes := by
  cases left
  cases right
  simp only [signalView, Prod.mk.injEq] at views instants
  simp only [Signal.withoutNotes, Signal.mk.injEq]
  grind

theorem map_eq_of_map_view {α β γ : Type} {view : α → β} {other : α → γ} {lefts rights : List α}
    (views : lefts.map view = rights.map view)
    (tells : ∀ left ∈ lefts, ∀ right ∈ rights, view left = view right →
      other left = other right) : lefts.map other = rights.map other := by
  induction lefts generalizing rights with
  | nil =>
      rw [List.map_nil, eq_comm, List.map_eq_nil_iff] at views
      rw [views]
  | cons left lefts induction =>
      cases rights with
      | nil => contradiction
      | cons right rights =>
          rcases List.cons.inj views with ⟨head, tail⟩
          rw [List.map_cons, List.map_cons,
            tells left List.mem_cons_self right List.mem_cons_self head, induction tail]
          intro left leftMember right rightMember
          exact tells left (List.mem_cons_of_mem _ leftMember) right
            (List.mem_cons_of_mem _ rightMember)

theorem tagAll_eq_of_datasetBytes {instants : Instant → Prop}
    (apart : ∀ first second, instants first → instants second → first.micros = second.micros →
      first = second)
    {left right : CandleSeries} {leftSignals rightSignals : List Signal}
    (leftDrawn : DrawnFrom instants left leftSignals)
    (rightDrawn : DrawnFrom instants right rightSignals)
    (aligned : Aligned left right leftSignals rightSignals)
    (equal : datasetBytes left leftSignals = datasetBytes right rightSignals)
    (tieBreak : TieBreak) :
    tagAll leftSignals left tieBreak = tagAll rightSignals right tieBreak := by
  rcases views_of_datasetBytes aligned leftDrawn.texts_fit rightDrawn.texts_fit equal with
    ⟨candles, signals⟩
  apply tagAll_congr
  · apply map_eq_of_map_view candles
    intro left leftMember right rightMember views
    have micros : left.timestamp.micros = right.timestamp.micros :=
      congrArg (fun view => view.1.1.1.1.1) views
    exact withoutVolume_eq (apart _ _ (leftDrawn.candles_drawn left leftMember)
      (rightDrawn.candles_drawn right rightMember) micros) views
  · apply map_eq_of_map_view signals
    intro left leftMember right rightMember views
    have micros : left.timestamp.micros = right.timestamp.micros :=
      congrArg (fun view => view.1.1.1.1.1.1.1.1.2) views
    exact withoutNotes_eq (apart _ _ (leftDrawn.signals_drawn left leftMember)
      (rightDrawn.signals_drawn right rightMember) micros) views

/-! ## Collisions -/

def rise (instant : Instant) : Candle where
  timestamp := instant
  opening := .ofFloat 100.0
  high := .ofFloat 103.0
  low := .ofFloat 100.0
  closing := .ofFloat 102.0
  volume := none

def trade (instant : Instant) : Signal where
  id := "s"
  timestamp := instant
  symbol := "EURUSD"
  timeframe := "M5"
  direction := .long
  kind := none
  entry := .ofFloat 100.0
  stop := .ofFloat 99.0
  target := .ofFloat 102.0
  session := none
  notes := []

theorem label_tag_earlier {earlier later : Instant} (less : earlier.lt later = true)
    (tieBreak : TieBreak) :
    ((trade earlier).tag (.ofList [rise later]) tieBreak).label = .win := by
  have after : [rise later].filter (Candle.isAfter (trade earlier).timestamp) = [rise later] :=
    List.filter_cons_of_pos less
  have stop : (trade earlier).touchesStop (rise later) = false :=
    decide_eq_false (show ¬ (100.0 : Float) ≤ 99.0 by decide)
  have target : (trade earlier).touchesTarget (rise later) = true :=
    decide_eq_true (show (102.0 : Float) ≤ 103.0 by decide)
  have touched : (trade earlier).touches (rise later) = true := by
    rw [Signal.touches, target, Bool.or_true]
  rw [Signal.tag, CandleSeries.after_ofList, after, List.mergeSort_singleton,
    Signal.replay_touched touched, Signal.ended, stop]
  rfl

theorem label_tag_same (instant : Instant) (tieBreak : TieBreak) :
    ((trade instant).tag (.ofList [rise instant]) tieBreak).label = .unknown := by
  have notAfter : (rise instant).isAfter (trade instant).timestamp = false := by
    simp [Candle.isAfter, Instant.lt, rise, trade]
  rw [Signal.tag, CandleSeries.after_ofList, List.filter_cons_of_neg (by rw [notAfter]; decide),
    List.filter_nil, List.mergeSort_nil]
  rfl

theorem collision {earlier later : Instant} (less : earlier.lt later = true)
    (same : earlier.micros = later.micros) (tieBreak : TieBreak) :
    datasetBytes (.ofList [rise later]) [trade earlier] =
        datasetBytes (.ofList [rise later]) [trade later] ∧
      tagAll [trade earlier] (.ofList [rise later]) tieBreak ≠
        tagAll [trade later] (.ofList [rise later]) tieBreak := by
  constructor
  · have instants : instantBytes earlier = instantBytes later := congrArg signed64 same
    have signals : signalBytes (trade earlier) = signalBytes (trade later) := by
      unfold signalBytes
      rw [show instantBytes (trade earlier).timestamp = instantBytes (trade later).timestamp
        from instants]
      rfl
    rw [datasetBytes, datasetBytes, List.flatMap_singleton, List.flatMap_singleton, signals]
  · intro equal
    have labels := congrArg Outcome.label (List.cons.inj equal).1
    rw [label_tag_earlier less, label_tag_same] at labels
    contradiction

theorem textsFit_trade (instant : Instant) : TextsFit (trade instant) := by
  have fits (text : String) (short : (text.toList.flatMap String.utf8EncodeChar).length < 2 ^ 64) :
      Fits text := by
    rw [Fits, Utf8.encode_eq_flatMap]
    exact short
  refine ⟨fits _ ?_, fits _ ?_, fits _ ?_, ?_, ?_⟩
  · change (("s".toList).flatMap String.utf8EncodeChar).length < _
    decide
  · change (("EURUSD".toList).flatMap String.utf8EncodeChar).length < _
    decide
  · change (("M5".toList).flatMap String.utf8EncodeChar).length < _
    decide
  · intro text missing
    contradiction
  · intro text missing
    contradiction

theorem drawnFrom_trade {instants : Instant → Prop} {first second : Instant}
    (firstDrawn : instants first) (secondDrawn : instants second) :
    DrawnFrom instants (.ofList [rise first]) [trade second] := by
  refine ⟨?_, ?_, ?_⟩
  · intro candle member
    obtain rfl : candle = rise first := by simpa using member
    exact firstDrawn
  · intro signal member
    rw [List.mem_singleton.mp member]
    exact secondDrawn
  · intro signal member
    rw [List.mem_singleton.mp member]
    exact textsFit_trade second

/-- Among datasets over given instants, equal bytes mean equal outcomes exactly if no two of the
instants share a microsecond. -/
theorem datasetBytes_determine_tagAll_iff (instants : Instant → Prop) :
    (∀ (left right : CandleSeries) (leftSignals rightSignals : List Signal) (tieBreak : TieBreak),
      DrawnFrom instants left leftSignals → DrawnFrom instants right rightSignals →
      Aligned left right leftSignals rightSignals →
      datasetBytes left leftSignals = datasetBytes right rightSignals →
      tagAll leftSignals left tieBreak = tagAll rightSignals right tieBreak) ↔
    ∀ first second, instants first → instants second → first.micros = second.micros →
      first = second := by
  constructor
  · intro determine first second firstDrawn secondDrawn same
    -- Neither of two instants in one microsecond is earlier, since these two would collide.
    have notEarlier {earlier later : Instant} (earlierDrawn : instants earlier)
        (laterDrawn : instants later) (same : earlier.micros = later.micros) :
        earlier.lt later = false := by
      rw [Bool.eq_false_iff]
      intro less
      rcases collision less same .loss with ⟨equal, different⟩
      exact different (determine _ _ _ _ .loss (drawnFrom_trade laterDrawn earlierDrawn)
        (drawnFrom_trade laterDrawn laterDrawn) (.inl rfl) equal)
    exact Instant.eq_of_not_lt (notEarlier firstDrawn secondDrawn same)
      (notEarlier secondDrawn firstDrawn same.symm)
  · intro apart left right leftSignals rightSignals tieBreak leftDrawn rightDrawn aligned equal
    exact tagAll_eq_of_datasetBytes apart leftDrawn rightDrawn aligned equal tieBreak

/-- A nanosecond count of 500 is lost to the bytes, and it decides whether a candle comes after a
signal. -/
theorem collision_within_microsecond :
    datasetBytes (.ofList [rise ⟨1704186000, 500, by decide, by decide, by decide⟩])
        [trade ⟨1704186000, 0, by decide, by decide, by decide⟩] =
      datasetBytes (.ofList [rise ⟨1704186000, 500, by decide, by decide, by decide⟩])
        [trade ⟨1704186000, 500, by decide, by decide, by decide⟩] ∧
    tagAll [trade ⟨1704186000, 0, by decide, by decide, by decide⟩]
        (.ofList [rise ⟨1704186000, 500, by decide, by decide, by decide⟩]) .loss ≠
      tagAll [trade ⟨1704186000, 500, by decide, by decide, by decide⟩]
        (.ofList [rise ⟨1704186000, 500, by decide, by decide, by decide⟩]) .loss :=
  collision (by decide) (by decide) .loss

def textualCandle : Candle where
  timestamp := ⟨0, 40000, by decide, by decide, by decide⟩
  opening := .ofFloat 100.0
  high := .ofFloat 100.0
  low := .ofFloat 100.0
  closing := .ofFloat 100.0
  volume := some (.ofFloat 100.0)

def carryingSignal : Signal :=
  { trade ⟨0, 0, by decide, by decide, by decide⟩ with
    id := "\x10\x00\x00\x00\x00\x00\x00\x00"
    symbol := "" }

def absorbingSignal : Signal :=
  { trade ⟨0, 8000, by decide, by decide, by decide⟩ with
    id := String.join (List.replicate 5 "\x00\x00\x00\x00\x00\x00Y@")
    symbol := String.ofList (List.replicate 16 '\x00') }

/-- Without a count of candles, a candle can be taken for the beginning of a signal whose
identifier is as long as the candle has microseconds. -/
theorem collision_of_candle_and_signal :
    datasetBytes (.ofList [textualCandle]) [carryingSignal] =
        datasetBytes (.ofList []) [absorbingSignal] ∧
      tagAll [carryingSignal] (.ofList [textualCandle]) .loss ≠
        tagAll [absorbingSignal] (.ofList []) .loss := by
  constructor
  · unfold datasetBytes
    rw [CandleSeries.toList_ofList, CandleSeries.toList_ofList, List.mergeSort_singleton,
      List.mergeSort_nil, List.flatMap_singleton, List.flatMap_singleton,
      List.flatMap_singleton, List.flatMap_nil]
    simp only [signalBytes, textBytes, optionalTextBytes, Utf8.encode_eq_flatMap]
    decide +kernel
  · intro equal
    have ids := congrArg Outcome.signalId (List.cons.inj equal).1
    rw [signalId_tag, signalId_tag] at ids
    exact absurd ids (by decide)

end Fingerprint

end SignalReplay
