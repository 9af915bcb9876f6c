import SignalReplay.Proofs.Failure
import SignalReplay.Proofs.Rearrangement
import SignalReplay.Signal.Lines

/-!
Signal files line by line. A file loads exactly if each of its lines is blank or a signal by itself
and one of them is a signal; where in the file a line stands shows in errors and in the identifiers
of signals that give none.
-/

namespace SignalReplay.SignalLines

/-- The signal of a line that has one, as in the line before the first. -/
def signalOf? (pattern : String) (bytes : List UInt8) : Option Signal :=
  (line pattern 0 bytes).toOption.join

/-- Whether a line gives an identifier, if it holds an object at all. -/
def isNamed (bytes : List UInt8) : Bool :=
  match Utf8.decode bytes with
  | .error _ => true
  | .ok content =>
    match Json.Value.ofText? content with
    | some (.object members) => (given? members "signal_id").isSome
    | _ => true

variable {pattern source : String}

theorem identifier_number {members : List (String × Json.Value)}
    (named : (given? members "signal_id").isSome) (number other : Nat) :
    identifier members number = identifier members other := by
  rcases Option.isSome_iff_exists.mp named with ⟨value, found⟩
  unfold identifier
  rw [found]
  cases value <;> rfl

theorem parse_number {content : String}
    (named : ∀ members, Json.Value.ofText? content = some (.object members) →
      (given? members "signal_id").isSome) (number other : Nat) :
    parse pattern number content = parse pattern other content := by
  unfold parse
  split
  · rfl
  · next members found =>
      unfold signal
      rw [identifier_number (named members found) number other]
  · rfl

theorem toOption_line {bytes : List UInt8} (named : isNamed bytes) (number other : Nat) :
    (line pattern number bytes).toOption = (line pattern other bytes).toOption := by
  unfold isNamed at named
  unfold line
  cases decoded : Utf8.decode bytes with
  | error fault => rfl
  | ok content =>
      rw [decoded] at named
      dsimp only at named ⊢
      have parsed : parse pattern number content = parse pattern other content :=
        parse_number (fun members found => by simpa [found] using named) number other
      rw [parsed]
      split
      · rfl
      · cases parse pattern other content <;> rfl

theorem line_eq_ok_iff {bytes : List UInt8} (named : isNamed bytes) (number : Nat)
    (found : Option Signal) :
    line pattern number bytes = .ok found ↔
      (line pattern 0 bytes).toOption = some found := by
  rw [← toOption_line named number 0]
  cases line pattern number bytes <;> simp [Except.toOption]

theorem signals_eq_ok_iff {number : Nat} {lines : List (List UInt8)} {found : List Signal}
    (named : ∀ bytes ∈ lines, isNamed bytes) :
    signals pattern number lines = .ok found ↔
      (∀ bytes ∈ lines, (line pattern 0 bytes).toOption.isSome) ∧
        found = lines.filterMap (signalOf? pattern) := by
  induction lines generalizing number found with
  | nil =>
      simp only [signals, Except.ok.injEq, List.filterMap_nil, List.not_mem_nil, false_implies,
        implies_true, true_and]
      exact eq_comm
  | cons bytes rest induction =>
      rcases List.forall_mem_cons.mp named with ⟨firstNamed, restNamed⟩
      simp only [signals, bind_eq_ok_iff, line_eq_ok_iff firstNamed, induction restNamed,
        List.forall_mem_cons, List.filterMap_cons, signalOf?]
      cases (line pattern 0 bytes).toOption with
      | none => simp
      | some first? =>
          simp only [pure, Except.pure, Except.ok.injEq, Option.some.injEq, Option.isSome_some,
            true_and, and_assoc, exists_eq_left', Option.join_some]
          constructor
          · rintro ⟨later, read, rfl, rfl⟩
            exact ⟨read, by cases first? <;> rfl⟩
          · rintro ⟨read, rfl⟩
            exact ⟨_, read, rfl, by cases first? <;> rfl⟩

theorem read_eq_ok_iff {bytes : List UInt8} {found : List Signal}
    (named : ∀ line ∈ Text.lines bytes, isNamed line) :
    read pattern source bytes = .ok found ↔
      (∀ line ∈ Text.lines bytes, (SignalLines.line pattern 0 line).toOption.isSome) ∧
        (Text.lines bytes).filterMap (signalOf? pattern) ≠ [] ∧
        found = ((Text.lines bytes).filterMap (signalOf? pattern)).mergeSort Signal.notLater := by
  simp only [read, bind_eq_ok_iff, signals_eq_ok_iff named]
  constructor
  · rintro ⟨_, ⟨allRead, rfl⟩, loaded⟩
    split at loaded
    · cases loaded
    · next notEmpty =>
        exact ⟨allRead, by simpa using notEmpty, (Except.ok.inj loaded).symm⟩
  · rintro ⟨allRead, notEmpty, rfl⟩
    exact ⟨_, ⟨allRead, rfl⟩, if_neg (by simpa using notEmpty)⟩

/-! ## Lines in another order -/

def timestampOf? (pattern : String) (bytes : List UInt8) : Option Instant :=
  (signalOf? pattern bytes).map (·.timestamp)

/-- A file whose lines stand in another order that leaves lines of one timestamp as they were. -/
def IsRearranged (pattern : String) (bytes other : List UInt8) : Prop :=
  Rearranged (timestampOf? pattern) (Text.lines bytes) (Text.lines other)

theorem read_of_isRearranged {bytes other : List UInt8} {found : List Signal}
    (loaded : read pattern source bytes = .ok found)
    (named : ∀ line ∈ Text.lines bytes, isNamed line)
    (rearranged : IsRearranged pattern bytes other) :
    read pattern source other = .ok found := by
  rcases (read_eq_ok_iff named).mp loaded with ⟨allRead, notEmpty, rfl⟩
  have otherNamed : ∀ line ∈ Text.lines other, isNamed line := fun line member =>
    named line (rearranged.perm.mem_iff.mp member)
  have found := rearranged.perm.filterMap (signalOf? pattern)
  refine (read_eq_ok_iff otherNamed).mpr ⟨?_, ?_, ?_⟩
  · intro line member
    exact allRead line (rearranged.perm.mem_iff.mp member)
  · intro empty
    rw [empty] at found
    exact notEmpty found.symm.eq_nil
  · exact rearranged.mergeSort_filterMap.symm

/-! ## Single lines -/

def longLine (fields : String) : List UInt8 :=
  Utf8.encode ("\x7b\"signal_id\": \"a\", \"timestamp\": \"2024-01-02 09:00:00\", " ++
    "\"direction\": \"long\", \"entry\": 100, " ++ fields ++ "\x7d\n")

theorem exists_read_singleton {β : Type} {view : Signal → β} {seen : β} {bytes : List UInt8}
    (loaded : (signals pattern 1 (Text.lines bytes)).toOption.map (·.map view) = some [seen]) :
    ∃ signal, read pattern source bytes = .ok [signal] ∧ view signal = seen := by
  rcases Option.map_eq_some_iff.mp loaded with ⟨found, held, views⟩
  rcases List.map_eq_singleton_iff.mp views with ⟨signal, rfl, equal⟩
  refine ⟨signal, ?_, equal⟩
  rw [read, toOption_eq_some_iff.mp held]
  exact congrArg Except.ok (List.mergeSort_singleton signal)

end SignalReplay.SignalLines
