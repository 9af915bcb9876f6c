import SignalReplay.Replay.Artifacts
import SignalReplay.Files.Tree
import SignalReplay.Proofs.Json.Prefix
import SignalReplay.Proofs.Json.Record
import SignalReplay.Proofs.Json.Visible
import SignalReplay.Proofs.Time.StandardForm

/-!
Outcome files read back. Every outcome is written on a line of its own, whatever its identifier
holds, and the lines are read as the outcomes that were written, without the numbers that are not
finite.
-/

namespace SignalReplay

namespace Outcome

/-- What a file keeps of an outcome: numbers that are not finite are lost. -/
def stored (outcome : Outcome) : Outcome where
  signalId := outcome.signalId
  label := outcome.label
  rMultiple := outcome.rMultiple.filter (·.value.isFinite)
  adverse := outcome.adverse.filter Float.isFinite
  favourable := outcome.favourable.filter Float.isFinite
  exitPrice := outcome.exitPrice.filter Float.isFinite
  exitTime := outcome.exitTime

structure AllFinite (outcome : Outcome) : Prop where
  rMultiple : ∀ quantity, outcome.rMultiple = some quantity → quantity.value.isFinite = true
  adverse : ∀ value, outcome.adverse = some value → value.isFinite = true
  favourable : ∀ value, outcome.favourable = some value → value.isFinite = true
  exitPrice : ∀ value, outcome.exitPrice = some value → value.isFinite = true

theorem filter_eq_self_iff (keep : α → Bool) (value : Option α) :
    value.filter keep = value ↔ ∀ content, value = some content → keep content = true := by
  cases value with
  | none => simp
  | some content =>
      cases keeps : keep content with
      | false => simp [keeps]
      | true => simp [keeps]

theorem stored_eq_iff (outcome : Outcome) : outcome.stored = outcome ↔ outcome.AllFinite := by
  rcases outcome with ⟨signalId, label, rMultiple, adverse, favourable, exitPrice, exitTime⟩
  simp only [stored, Outcome.mk.injEq, true_and, and_true, filter_eq_self_iff]
  constructor
  · intro finite
    rcases finite with ⟨first, second, third, fourth⟩
    exact ⟨first, second, third, fourth⟩
  · intro finite
    exact ⟨finite.rMultiple, finite.adverse, finite.favourable, finite.exitPrice⟩

/-! ## Trees -/

@[simp]
theorem reader_label (label : OutcomeLabel) : OutcomeLabel.reader label.toJson.node = some label := by
  cases label <;> rfl

@[simp]
theorem reader_instant (instant : Instant) : Instant.reader instant.toJson.node = some instant := by
  simp only [Instant.toJson, Json.Value.node, Instant.reader, Json.Reader.text, Option.bind_some,
    instant.readStandardForm?_toText]

@[simp]
theorem orNull_exitTime (exitTime : Option Instant) :
    Instant.reader.orNull (Json.Value.optional Instant.toJson exitTime).node = some exitTime :=
  Json.Reader.orNull_lossless rfl reader_instant exitTime

def record (outcome : Outcome) : Json.Record where
  found := [
    ("signal_id", (Json.Value.string outcome.signalId).node),
    ("outcome", outcome.label.toJson.node),
    ("r_multiple", (Json.Value.optional (.real ·.value) outcome.rMultiple).node),
    ("mae", (Json.Value.optional .real outcome.adverse).node),
    ("mfe", (Json.Value.optional .real outcome.favourable).node),
    ("exit_price", (Json.Value.optional .real outcome.exitPrice).node),
    ("exit_time", (Json.Value.optional Instant.toJson outcome.exitTime).node)]
  isArray := false

@[simp]
theorem reader_node (outcome : Outcome) : reader outcome.toJson.node = some outcome.stored := by
  have found : Json.Record.read? fields outcome.toJson.node = some outcome.record := rfl
  have signalId : outcome.record.required "signal_id" Json.Reader.text = some outcome.signalId := by
    change Json.Reader.text (Json.Value.string outcome.signalId).node = _
    rw [Json.Value.node]
    rfl
  have label : outcome.record.required "outcome" OutcomeLabel.reader = some outcome.label :=
    reader_label outcome.label
  have rMultiple : outcome.record.nullable "r_multiple" Json.Reader.quantity =
      some (outcome.rMultiple.filter (·.value.isFinite)) :=
    Json.Reader.orNull_quantity outcome.rMultiple
  have adverse : outcome.record.nullable "mae" Json.Reader.real =
      some (outcome.adverse.filter Float.isFinite) := Json.Reader.orNull_real outcome.adverse
  have favourable : outcome.record.nullable "mfe" Json.Reader.real =
      some (outcome.favourable.filter Float.isFinite) := Json.Reader.orNull_real outcome.favourable
  have exitPrice : outcome.record.nullable "exit_price" Json.Reader.real =
      some (outcome.exitPrice.filter Float.isFinite) := Json.Reader.orNull_real outcome.exitPrice
  have exitTime : outcome.record.nullable "exit_time" Instant.reader = some outcome.exitTime :=
    orNull_exitTime outcome.exitTime
  simp only [reader, found, Option.bind_eq_bind, Option.bind_some, signalId, label, rMultiple,
    adverse, favourable, exitPrice, exitTime]
  rfl

end Outcome

namespace OutcomeLines

/-! ## Lines -/

theorem not_mem_encode {text : String} {byte : UInt8} (visible : Json.Visible text.toList)
    (control : byte.toNat < 0x20) : byte ∉ Utf8.encode text := by
  intro member
  rw [Utf8.encode_eq_flatMap] at member
  rcases List.mem_flatMap.mp member with ⟨character, inText, inBytes⟩
  have code := Utf8.eq_of_mem_utf8EncodeChar (by omega) inBytes
  have bound := visible character inText
  omega

theorem toList_write (outcomes : List Outcome) :
    (write outcomes).toList =
      outcomes.flatMap fun outcome => outcome.toJson.compact.toList ++ ['\n'] := by
  rw [write, Text.toList_intercalate_empty, List.flatMap_map]
  simp only [String.toList_append]
  rfl

theorem encode_write (outcomes : List Outcome) :
    Utf8.encode (write outcomes) =
      (outcomes.map fun outcome => Utf8.encode outcome.toJson.compact).flatMap
        (· ++ [Text.lineFeed]) := by
  have newline : String.utf8EncodeChar '\n' = [Text.lineFeed] := by decide
  rw [Utf8.encode_eq_flatMap, toList_write, List.flatMap_assoc, List.flatMap_map]
  simp only [List.flatMap_append, List.flatMap_singleton, newline, ← Utf8.encode_eq_flatMap]

theorem lineFeed_not_mem_compact (outcome : Outcome) :
    Text.lineFeed ∉ Utf8.encode outcome.toJson.compact :=
  not_mem_encode (Json.Value.visible_compact outcome.toJson) (by decide)

theorem carriageReturn_not_mem_compact (outcome : Outcome) :
    Text.carriageReturn ∉ Utf8.encode outcome.toJson.compact :=
  not_mem_encode (Json.Value.visible_compact outcome.toJson) (by decide)

@[simp]
theorem lines_encode_write (outcomes : List Outcome) :
    Text.lines (Utf8.encode (write outcomes)) =
      outcomes.map fun outcome => Utf8.encode outcome.toJson.compact := by
  rw [encode_write]
  apply Text.lines_flatMap
  · intro line member
    rcases List.mem_map.mp member with ⟨outcome, _, rfl⟩
    exact lineFeed_not_mem_compact outcome
  · intro line member last
    rcases List.mem_map.mp member with ⟨outcome, _, rfl⟩
    exact carriageReturn_not_mem_compact outcome (List.mem_of_getLast? last)

/-! ## Outcomes -/

@[simp]
theorem line_compact (number : Nat) (outcome : Outcome) :
    line number (Utf8.encode outcome.toJson.compact) = .ok (some outcome.stored) := by
  have notBlank : Text.isBlankText outcome.toJson.compact = false := by
    rw [Text.isBlankText, Outcome.toJson, Json.Value.toList_compact_object]
    rfl
  rw [line, Utf8.decode_encode]
  dsimp only
  rw [notBlank, if_neg Bool.false_ne_true, Json.Value.ofText?_compact, Option.bind_some,
    Outcome.reader_node]

theorem outcomes_compact (number : Nat) (written : List Outcome) :
    outcomes number (written.map fun outcome => Utf8.encode outcome.toJson.compact) =
      .ok (written.map Outcome.stored) := by
  induction written generalizing number with
  | nil => rfl
  | cons outcome rest induction =>
      rw [List.map_cons, outcomes, line_compact]
      exact bind_of_ok (induction (number + 1)) _

@[simp]
theorem read_encode_write (outcomes : List Outcome) :
    read (Utf8.encode (write outcomes)) = .ok (outcomes.map Outcome.stored) := by
  rw [read, lines_encode_write, outcomes_compact]

theorem map_stored_eq_iff (outcomes : List Outcome) :
    outcomes.map Outcome.stored = outcomes ↔ ∀ outcome ∈ outcomes, outcome.AllFinite := by
  have pointwise := @List.map_inj_left _ _ outcomes Outcome.stored id
  rw [List.map_id] at pointwise
  rw [pointwise]
  simp only [id, Outcome.stored_eq_iff]

theorem readOutcomes_eq {tree : FileTree} {path : String} {outcomes : List Outcome}
    (held : tree.read path = .ok (Utf8.encode (write outcomes))) :
    (Artifacts.readOutcomes path : ExceptT ArtifactError (StateM FileTree) _).run.run tree =
      (.ok (outcomes.map Outcome.stored), tree) := by
  have found : (FileStore.read path : StateM FileTree _).run tree =
      (pure (.ok (Utf8.encode (write outcomes)), tree) : Id _) := by
    change (tree.read path, tree) = _
    rw [held]
    rfl
  rw [Artifacts.readOutcomes]
  change (StateT.run (m := Id) (ExceptT.run
    (ExceptT.lift (FileStore.read path : StateM FileTree _) >>= _)) tree) = _
  rw [ExceptT.run_bind_lift, StateT.run_bind, found, pure_bind]
  simp only [read_encode_write]
  rfl

/-! ## Files that are cut off -/

theorem exists_line_error {outcome : Outcome} {part : List UInt8}
    (isPrefix : part <+: Utf8.encode outcome.toJson.compact) (notEmpty : part ≠ [])
    (proper : part ≠ Utf8.encode outcome.toJson.compact) (number : Nat) :
    ∃ error, line number part = .error error := by
  rw [line]
  cases decoded : Utf8.decode part with
  | error fault => exact ⟨_, rfl⟩
  | ok content =>
      rw [Utf8.decode_eq_ok_iff] at decoded
      subst decoded
      have cut : Json.IsCutObject content outcome.toJson.compact :=
        Json.Value.isCutObject_compact _ (Utf8.isPrefix_of_encode isPrefix)
          fun equal => proper (congrArg Utf8.encode equal)
      have notBlank : Text.isBlankText content = false := by
        rcases cut.braced with ⟨middle, text⟩
        rcases cut.isPrefix with ⟨rest, joined⟩
        cases letters : content.toList with
        | nil =>
            rw [Utf8.encode_eq_flatMap, letters] at notEmpty
            exact absurd rfl notEmpty
        | cons first more =>
            rw [letters, text] at joined
            rw [Text.isBlankText, letters, (List.cons.inj joined).1]
            rfl
      dsimp only
      rw [notBlank, if_neg Bool.false_ne_true,
        Json.Node.ofText?_eq_none_of_isCutObject cut (Json.Value.ofText?_compact _)]
      exact ⟨_, rfl⟩

theorem isPrefix_line {part front more : List UInt8} {mark : UInt8}
    (isPrefix : part <+: front ++ mark :: more) :
    part <+: front ∨ ∃ later, part = front ++ mark :: later ∧ later <+: more := by
  rcases isPrefix with ⟨missing, joined⟩
  rcases List.append_eq_append_iff.mp joined with ⟨back, whole, -⟩ | ⟨back, rfl, more⟩
  · exact .inl ⟨back, whole.symm⟩
  · cases back with
    | nil => exact .inl (by rw [List.append_nil])
    | cons first later =>
        cases (List.cons.inj more).1
        exact .inr ⟨later, rfl, missing, (List.cons.inj more).2.symm⟩

theorem lines_of_isPrefix {outcome : Outcome} {part : List UInt8}
    (isPrefix : part <+: Utf8.encode outcome.toJson.compact) (notEmpty : part ≠ []) :
    Text.lines part = [part] := by
  have plain : Text.lineFeed ∉ part :=
    fun member => lineFeed_not_mem_compact outcome (isPrefix.subset member)
  have unreturned : part.getLast? ≠ some Text.carriageReturn := fun last =>
    carriageReturn_not_mem_compact outcome (isPrefix.subset (List.mem_of_getLast? last))
  rw [Text.lines, Text.splitLines_plain plain notEmpty, List.map_singleton,
    Text.dropReturn_eq unreturned]

/-- A file of outcomes that is cut off is no such file, or one of the outcomes before the cut. -/
theorem outcomes_of_isPrefix {part : List UInt8} (written : List Outcome) (number : Nat)
    (isPrefix : part <+: (written.map fun outcome => Utf8.encode outcome.toJson.compact).flatMap
      (· ++ [Text.lineFeed])) :
    (∃ error, outcomes number (Text.lines part) = .error error) ∨
      ∃ front, front <+: written ∧
        outcomes number (Text.lines part) = .ok (front.map Outcome.stored) := by
  induction written generalizing number part with
  | nil =>
      rw [List.map_nil, List.flatMap_nil, List.prefix_nil] at isPrefix
      subst isPrefix
      exact .inr ⟨[], List.nil_prefix, rfl⟩
  | cons outcome rest induction =>
      rw [List.map_cons, List.flatMap_cons, List.append_assoc, List.singleton_append] at isPrefix
      rcases isPrefix_line isPrefix with inFirst | ⟨later, rfl, inLater⟩
      · by_cases empty : part = []
        · exact .inr ⟨[], List.nil_prefix, by rw [empty]; rfl⟩
        rw [lines_of_isPrefix inFirst empty]
        by_cases whole : part = Utf8.encode outcome.toJson.compact
        · exact .inr ⟨[outcome], List.prefix_append _ rest,
            whole ▸ outcomes_compact number [outcome]⟩
        · rcases exists_line_error inFirst empty whole number with ⟨error, failed⟩
          exact .inl ⟨error, by rw [outcomes, failed]; rfl⟩
      · have unreturned : (Utf8.encode outcome.toJson.compact).getLast? ≠
            some Text.carriageReturn :=
          fun last => carriageReturn_not_mem_compact outcome (List.mem_of_getLast? last)
        rw [Text.lines, Text.splitLines_line later (lineFeed_not_mem_compact outcome),
          List.map_cons, Text.dropReturn_eq unreturned, outcomes, line_compact, ← Text.lines]
        rcases induction (number + 1) inLater with ⟨error, failed⟩ | ⟨front, inFront, read⟩
        · exact .inl ⟨error, by rw [failed]; rfl⟩
        · exact .inr ⟨outcome :: front, List.cons_prefix_cons.mpr ⟨rfl, inFront⟩,
            by rw [read]; rfl⟩

theorem read_of_isPrefix {part : List UInt8} {written : List Outcome}
    (isPrefix : part <+: Utf8.encode (write written)) :
    (∃ error, read part = .error error) ∨
      ∃ front, front <+: written ∧ read part = .ok (front.map Outcome.stored) := by
  rw [encode_write] at isPrefix
  exact outcomes_of_isPrefix written 1 isPrefix

/-- A file of outcomes has one line for each, ended by a line feed, and is read back as what is
stored of them: the outcomes themselves exactly if all their numbers are finite. -/
theorem read_back (outcomes : List Outcome) :
    (∃ lines : List String, lines.length = outcomes.length ∧
        (∀ line ∈ lines, '\n' ∉ line.toList) ∧
        (write outcomes).toList = lines.flatMap fun line => line.toList ++ ['\n']) ∧
      read (Utf8.encode (write outcomes)) = .ok (outcomes.map Outcome.stored) ∧
      (read (Utf8.encode (write outcomes)) = .ok outcomes ↔
        ∀ outcome ∈ outcomes, outcome.AllFinite) ∧
      ∀ (tree : FileTree) (path : String),
        tree.read path = .ok (Utf8.encode (write outcomes)) →
        (Artifacts.readOutcomes path : ExceptT ArtifactError (StateM FileTree) _).run.run tree =
          (.ok (outcomes.map Outcome.stored), tree) := by
  refine ⟨⟨outcomes.map (·.toJson.compact), List.length_map _, ?_, ?_⟩, read_encode_write outcomes,
    ?_, fun tree path held => readOutcomes_eq held⟩
  · intro line member newline
    rcases List.mem_map.mp member with ⟨outcome, _, equal⟩
    rw [← equal] at newline
    have visible := outcome.toJson.visible_compact '\n' newline
    exact absurd visible (by decide)
  · rw [toList_write, List.flatMap_map]
  · rw [read_encode_write, Except.ok.injEq]
    exact map_stored_eq_iff outcomes

theorem read_back_in_tree :
    let outcome : Outcome := ⟨"say \"A\"\n", .win, some (.ofFloat (1.0 / 0.0)), some 0.1, none,
      some 102.5, none⟩
    let tree := FileTree.empty.put ["outcomes.jsonl"] (.file (Utf8.encode (write [outcome])))
    (Artifacts.readOutcomes "outcomes.jsonl" : ExceptT ArtifactError (StateM FileTree) _).run.run
        tree = (.ok [{ outcome with rMultiple := none }], tree) := by
  intro outcome tree
  have held : tree.read "outcomes.jsonl" = .ok (Utf8.encode (write [outcome])) := rfl
  have stored : [outcome].map Outcome.stored = [{ outcome with rMultiple := none }] := by decide
  rw [← stored]
  exact (read_back [outcome]).2.2.2 tree "outcomes.jsonl" held

end OutcomeLines

end SignalReplay
