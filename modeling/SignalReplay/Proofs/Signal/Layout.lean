import SignalReplay.Proofs.Json.Token
import SignalReplay.Proofs.Signal.Identifiers
import SignalReplay.Proofs.Signal.Lines
import SignalReplay.Proofs.Text.LineLayout

/-!
Layouts of a signal file. How its lines end is of no account, and neither are blank lines and a
missing line feed at the end as long as no signal is named after its line.
-/

namespace SignalReplay.SignalLines

variable {pattern source : String} {bytes other : List UInt8} {found : List Signal}

/-! ## Blank lines -/

theorem line_of_isBlankLine (isBlank : Text.isBlankLine bytes = true) (number : Nat) :
    line pattern number bytes = .ok none := by
  rcases Text.exists_of_isBlankLine isBlank with ⟨text, rfl, blank⟩
  rw [line_encode, if_pos blank]

theorem isNamed_of_isBlankLine (isBlank : Text.isBlankLine bytes = true) :
    isNamed bytes = true := by
  rcases Text.exists_of_isBlankLine isBlank with ⟨text, rfl, blank⟩
  unfold isNamed
  rw [Utf8.decode_encode]
  dsimp only
  rw [Json.Value.ofText?_of_isBlankText blank]

theorem forall_visibleLines_iff {holds : List UInt8 → Prop}
    (blank : ∀ line, Text.isBlankLine line = true → holds line) :
    (∀ line ∈ Text.visibleLines bytes, holds line) ↔ ∀ line ∈ Text.lines bytes, holds line := by
  constructor
  · intro visible line member
    cases isBlank : Text.isBlankLine line with
    | true => exact blank line isBlank
    | false => exact visible line (List.mem_filter.mpr ⟨member, by rw [isBlank]; rfl⟩)
  · intro all line member
    exact all line (List.mem_filter.mp member).1

theorem filterMap_visibleLines (pattern : String) (bytes : List UInt8) :
    (Text.visibleLines bytes).filterMap (signalOf? pattern) =
      (Text.lines bytes).filterMap (signalOf? pattern) := by
  rw [Text.visibleLines, List.filterMap_filter]
  refine List.filterMap_congr fun line _ => ?_
  cases isBlank : Text.isBlankLine line with
  | true =>
      rw [signalOf?, line_of_isBlankLine isBlank]
      rfl
  | false => rfl

theorem read_eq_ok_iff_visibleLines (named : ∀ line ∈ Text.visibleLines bytes, isNamed line) :
    read pattern source bytes = .ok found ↔
      (∀ line ∈ Text.visibleLines bytes, (SignalLines.line pattern 0 line).toOption.isSome) ∧
        (Text.visibleLines bytes).filterMap (signalOf? pattern) ≠ [] ∧
        found =
          ((Text.visibleLines bytes).filterMap (signalOf? pattern)).mergeSort Signal.notLater := by
  have allNamed := (forall_visibleLines_iff fun _ => isNamed_of_isBlankLine).mp named
  have readable :
      (∀ line ∈ Text.visibleLines bytes, (SignalLines.line pattern 0 line).toOption.isSome) ↔
        ∀ line ∈ Text.lines bytes, (SignalLines.line pattern 0 line).toOption.isSome :=
    forall_visibleLines_iff fun line isBlank => by rw [line_of_isBlankLine isBlank]; rfl
  rw [read_eq_ok_iff allNamed, readable, filterMap_visibleLines]

/-! ## Layouts -/

/-- In a file without carriage returns, lines may end with one and a line feed instead of a line
feed: the file is read as the same signals or with the same error. A file that loads and names the
signals of its lines is still read as them when blank lines are put in or taken out or the line feed
at its end is added or dropped, in any number of changes. -/
theorem read_of_layout (pattern source : String) (bytes : List UInt8) :
    (Text.carriageReturn ∉ bytes →
      read pattern source (Text.withReturns bytes) = read pattern source bytes) ∧
    ∀ other found, Relation.EqvGen Text.Respaced bytes other →
      (∀ line ∈ Text.visibleLines bytes, isNamed line) →
      read pattern source bytes = .ok found → read pattern source other = .ok found := by
  constructor
  · intro plain
    rw [read, read, Text.lines_withReturns plain]
  · intro other found respaced named loaded
    have same := Text.visibleLines_of_eqvGen respaced
    rw [read_eq_ok_iff_visibleLines named] at loaded
    rw [same] at named loaded
    exact (read_eq_ok_iff_visibleLines named).mpr loaded

def spacedNamings : List UInt8 :=
  Utf8.encode "\u3000" ++ Text.lineFeed :: (Naming.namedLine "7" ++
    (Utf8.encode "\r" ++ Text.lineFeed :: (Naming.namedLine "\"8\"" ++ Utf8.encode "\t")))

theorem respaced_spacedNamings :
    Relation.EqvGen Text.Respaced spacedNamings
      (Naming.namedLine "7" ++ Naming.namedLine "\"8\"") := by
  let last := Naming.namedLine "\"8\"" ++ Utf8.encode "\t"
  let later := Utf8.encode "\r" ++ Text.lineFeed :: last
  have begins : Text.BeginsLine (Naming.namedLine "7" ++ Naming.namedLine "\"8\"") :=
    .inr (by decide +kernel)
  have first : Text.Respaced (Naming.namedLine "7" ++ Naming.namedLine "\"8\"")
      (Naming.namedLine "7" ++ last) := by
    rw [← List.append_assoc]
    exact .lastLine begins (by decide +kernel) (by decide +kernel)
  have second : Text.Respaced (Naming.namedLine "7" ++ last) (Naming.namedLine "7" ++ later) :=
    .line (.inr (by decide +kernel)) (by decide +kernel) (by decide +kernel)
  have third : Text.Respaced ([] ++ (Naming.namedLine "7" ++ later)) spacedNamings :=
    .line (.inl rfl) (by decide +kernel) (by decide +kernel)
  exact .symm _ _ ((Relation.EqvGen.rel _ _ first).trans _ _ _
    ((Relation.EqvGen.rel _ _ second).trans _ _ _ (.rel _ _ third)))

theorem read_of_layout_spacedNamings :
    ∃ found, read Timestamp.standardPattern "signals.jsonl" spacedNamings = .ok found ∧
      (∀ line ∈ Text.visibleLines spacedNamings, isNamed line) ∧
      read Timestamp.standardPattern "signals.jsonl"
        (Naming.namedLine "7" ++ Naming.namedLine "\"8\"") = .ok found := by
  have holds : (read Timestamp.standardPattern "signals.jsonl" spacedNamings).isOk = true ∧
      ∀ line ∈ Text.visibleLines spacedNamings, isNamed line := by
    decide +kernel
  rcases exists_eq_ok holds.1 with ⟨found, loaded⟩
  exact ⟨found, loaded, holds.2,
    (read_of_layout _ _ _).2 _ _ respaced_spacedNamings holds.2 loaded⟩

end SignalReplay.SignalLines
