import SignalReplay.Proofs.Reading
import SignalReplay.Proofs.Text.Lines
import SignalReplay.Signal.Lines

/-!
What a signal file is read as. A line is blank, bad or a signal; the first bad line is blamed for
the whole file, and a file without one is read as the signals of its other lines.
-/

namespace SignalReplay.SignalLines

variable {pattern source content : String} {number : Nat} {bytes : List UInt8} {signal : Signal}

/-! ## Lines -/

def IsBlank (bytes : List UInt8) : Prop :=
  ∃ content, bytes = Utf8.encode content ∧ Text.isBlankText content = true

/-- A line that is no text or a text that is neither blank nor a signal: what is shown of it, and
what is wrong with it. -/
inductive IsBad (pattern : String) (number : Nat) (bytes : List UInt8) : String → LineFault → Prop
  | notText {fault : Utf8.Fault} (broken : ∀ content, bytes ≠ Utf8.encode content)
      (found : Utf8.decode bytes = .error fault) :
      IsBad pattern number bytes (Utf8.decodeLossy bytes) (.notText fault)
  | noSignal {content : String} {fault : LineFault} (text : bytes = Utf8.encode content)
      (visible : Text.isBlankText content = false)
      (refused : parse pattern number content = .error fault) :
      IsBad pattern number bytes content fault

def IsGood (pattern : String) (number : Nat) (bytes : List UInt8) (signal : Signal) : Prop :=
  ∃ content, bytes = Utf8.encode content ∧ Text.isBlankText content = false ∧
    parse pattern number content = .ok signal

inductive LineReadsAs (pattern : String) (number : Nat) (bytes : List UInt8) :
    Except LoadError (Option Signal) → Prop
  | blank (blank : IsBlank bytes) : LineReadsAs pattern number bytes (.ok none)
  | good {signal : Signal} (good : IsGood pattern number bytes signal) :
      LineReadsAs pattern number bytes (.ok (some signal))
  | bad {raw : String} {fault : LineFault} (bad : IsBad pattern number bytes raw fault) :
      LineReadsAs pattern number bytes (.error (.badLine number raw fault))

theorem line_encode (content : String) :
    line pattern number (Utf8.encode content) =
      if Text.isBlankText content then .ok none
      else
        match parse pattern number content with
        | .ok signal => .ok (some signal)
        | .error fault => .error (.badLine number content fault) := by
  unfold line
  generalize decoded : Utf8.decode (Utf8.encode content) = result
  cases (Utf8.decode_encode content).symm.trans decoded
  rfl

theorem line_eq_iff {result : Except LoadError (Option Signal)} :
    line pattern number bytes = result ↔ LineReadsAs pattern number bytes result := by
  constructor
  · rintro rfl
    cases decoded : Utf8.decode bytes with
    | error fault =>
        have broken (content : String) : bytes ≠ Utf8.encode content := by
          intro text
          rw [Utf8.decode_eq_ok_iff.mpr text] at decoded
          cases decoded
        rw [line, decoded]
        exact .bad (.notText broken decoded)
    | ok content =>
        have text := Utf8.decode_eq_ok_iff.mp decoded
        rw [text, line_encode, ← text]
        cases blank : Text.isBlankText content with
        | true => exact .blank ⟨content, text, blank⟩
        | false =>
            rw [if_neg Bool.false_ne_true]
            cases parsed : parse pattern number content with
            | ok signal => exact .good ⟨content, text, blank, parsed⟩
            | error fault => exact .bad (.noSignal text blank parsed)
  · intro reads
    cases reads with
    | blank blank =>
        rcases blank with ⟨content, rfl, blank⟩
        rw [line_encode, if_pos blank]
    | good good =>
        rcases good with ⟨content, rfl, visible, accepted⟩
        rw [line_encode, visible, if_neg Bool.false_ne_true, accepted]
    | bad bad =>
        cases bad with
        | notText broken found => rw [line, found]
        | noSignal text visible refused =>
            rw [text, line_encode, visible, if_neg Bool.false_ne_true, refused]

/-! ## Files -/

/-- The signals that lines hold, counted from `number`: a good line holds one and a blank line
none. -/
inductive Hold (pattern : String) : Nat → List (List UInt8) → List Signal → Prop
  | nil {number : Nat} : Hold pattern number [] []
  | cons {number : Nat} {first : List UInt8} {rest : List (List UInt8)} {signal : Option Signal}
      {found : List Signal} (reads : LineReadsAs pattern number first (.ok signal))
      (later : Hold pattern (number + 1) rest found) :
      Hold pattern number (first :: rest) (signal.toList ++ found)

variable {lines : List (List UInt8)} {found : List Signal} {error : LoadError}

theorem signals_eq_readEach (pattern : String) (number : Nat) (lines : List (List UInt8)) :
    signals pattern number lines = readEach
      (fun number bytes => (line pattern number bytes).map Option.toList) number lines := by
  induction lines generalizing number with
  | nil => rfl
  | cons first rest induction =>
      rw [signals, readEach, induction]
      cases line pattern number first <;> rfl

theorem signals_eq_ok_iff_hold :
    signals pattern number lines = .ok found ↔ Hold pattern number lines found := by
  constructor
  · intro loaded
    induction lines generalizing number found with
    | nil =>
        cases loaded
        exact .nil
    | cons first rest induction =>
        rcases bind_eq_ok_iff.mp loaded with ⟨signal, reads, loaded⟩
        rcases bind_eq_ok_iff.mp loaded with ⟨later, laterLoaded, loaded⟩
        cases loaded
        exact .cons (line_eq_iff.mp reads) (induction laterLoaded)
  · intro held
    induction held with
    | nil => rfl
    | cons reads _ induction =>
        rw [signals, line_eq_iff.mpr reads, induction]
        rfl

theorem signals_eq_error_iff :
    signals pattern number lines = .error error ↔ ∃ before bytes,
      FailsFirst (fun number bytes error => LineReadsAs pattern number bytes (.error error))
        number lines before bytes error := by
  rw [signals_eq_readEach]
  refine readEach_eq_error_iff fun number bytes error => ?_
  rw [map_eq_error_iff, line_eq_iff]

theorem hold_nil_iff : Hold pattern number lines [] ↔ ∀ bytes ∈ lines, IsBlank bytes := by
  induction lines generalizing number with
  | nil => exact ⟨fun _ => List.forall_mem_nil _, fun _ => .nil⟩
  | cons first rest induction =>
      rw [List.forall_mem_cons, ← @induction (number + 1)]
      constructor
      · intro held
        generalize none' : ([] : List Signal) = empty at held
        cases held with
        | @cons _ _ _ signal found reads later =>
            cases reads with
            | blank blank =>
                obtain rfl : found = [] := none'.symm
                exact ⟨blank, later⟩
            | good good => cases none'
      · rintro ⟨blank, held⟩
        exact .cons (.blank blank) held

inductive ReadsAs (pattern source : String) (lines : List (List UInt8)) :
    Except LoadError (List Signal) → Prop
  | blamed {before rest : List (List UInt8)} {bytes : List UInt8} {raw : String} {fault : LineFault}
      (here : lines = before ++ bytes :: rest)
      (bad : IsBad pattern (before.length + 1) bytes raw fault)
      (first : ∀ index other raw fault, before[index]? = some other →
        ¬ IsBad pattern (index + 1) other raw fault) :
      ReadsAs pattern source lines (.error (.badLine (before.length + 1) raw fault))
  | nothing (blank : ∀ bytes ∈ lines, IsBlank bytes) :
      ReadsAs pattern source lines (.error (.noSignals source))
  | loaded {found : List Signal} (held : Hold pattern 1 lines found) (notEmpty : found ≠ []) :
      ReadsAs pattern source lines (.ok (found.mergeSort Signal.notLater))

theorem read_eq_iff_readsAs {result : Except LoadError (List Signal)} :
    read pattern source bytes = result ↔ ReadsAs pattern source (Text.lines bytes) result := by
  rw [read]
  generalize Text.lines bytes = lines
  constructor
  · rintro rfl
    cases ended : signals pattern 1 lines with
    | error error =>
        rcases signals_eq_error_iff.mp ended with ⟨before, line, ⟨rest, here⟩, fails, first⟩
        cases fails with
        | bad bad =>
            exact .blamed here bad fun index other raw fault found otherBad =>
              first index other _ found (.bad otherBad)
    | ok found =>
        have held := signals_eq_ok_iff_hold.mp ended
        cases found with
        | nil => exact .nothing (hold_nil_iff.mp held)
        | cons signal found => exact .loaded held (List.cons_ne_nil _ _)
  · intro reads
    cases reads with
    | @blamed before rest line raw fault here bad first =>
        have failed := signals_eq_error_iff.mpr ⟨before, line, ⟨rest, here⟩, .bad bad,
          fun index other error found fails => by
            cases fails with
            | bad otherBad => exact first index other _ _ found otherBad⟩
        rw [failed]
        rfl
    | nothing blank =>
        rw [signals_eq_ok_iff_hold.mpr (hold_nil_iff.mpr blank)]
        rfl
    | @loaded found held notEmpty =>
        rw [signals_eq_ok_iff_hold.mpr held]
        cases found with
        | nil => exact absurd rfl notEmpty
        | cons signal found => rfl

/-! ## Identifiers -/

theorem identifier_of_signal {members : List (String × Json.Value)}
    (accepted : SignalLines.signal pattern number members = .ok signal) :
    identifier members number = .ok signal.id := by
  rw [SignalLines.signal] at accepted
  rcases bind_eq_ok_iff.mp accepted with ⟨id, identified, accepted⟩
  -- The other fields are read after the identifier and leave it as it is.
  repeat rcases bind_eq_ok_iff.mp accepted with ⟨_, _, accepted⟩
  cases accepted
  exact identified

end SignalReplay.SignalLines
