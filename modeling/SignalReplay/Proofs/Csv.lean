import SignalReplay.Csv

/-!
Tables written without quotes. Fields that hold neither a comma nor a quote nor a line break are
written as they are, and the records of the table are read back, whichever line breaks end them.
-/

namespace SignalReplay.Csv

def IsPlain (field : Field) : Prop :=
  ∀ byte ∈ field, byte ≠ comma ∧ byte ≠ doubleQuote ∧ isLineBreak byte = false

instance : DecidablePred IsPlain := fun field =>
  List.decidableBAll _ field

def line : Record → List UInt8
  | [] => []
  | [field] => field
  | field :: next :: rest => field ++ comma :: line (next :: rest)

/-- Bytes that spell records of plain fields. Line breaks stand behind every record but perhaps the
last, and more of them anywhere between records. -/
inductive IsWritten : List Record → List UInt8 → Prop
  | nil : IsWritten [] []
  | empty {table : List Record} {lineBreak : UInt8} (isBreak : isLineBreak lineBreak = true)
      (later : IsWritten table bytes) : IsWritten table (lineBreak :: bytes)
  | last {record : Record} (plain : ∀ field ∈ record, IsPlain field) (visible : line record ≠ []) :
      IsWritten [record] (line record)
  | ended {record : Record} {table : List Record} {lineBreak : UInt8}
      (plain : ∀ field ∈ record, IsPlain field) (visible : line record ≠ [])
      (isBreak : isLineBreak lineBreak = true) (later : IsWritten table bytes) :
      IsWritten (record :: table) (line record ++ lineBreak :: bytes)

def write (table : List Record) : List UInt8 :=
  table.flatMap fun record => line record ++ [0xA]

theorem isWritten_write {table : List Record}
    (plain : ∀ record ∈ table, ∀ field ∈ record, IsPlain field)
    (visible : ∀ record ∈ table, line record ≠ []) : IsWritten table (write table) := by
  induction table with
  | nil => exact .nil
  | cons record table induction =>
      rcases List.forall_mem_cons.mp plain with ⟨plainHere, plainLater⟩
      rcases List.forall_mem_cons.mp visible with ⟨visibleHere, visibleLater⟩
      rw [write, List.flatMap_cons, List.append_assoc]
      exact .ended plainHere visibleHere (by decide) (induction plainLater visibleLater)

/-! ## Steps outside quotes -/

def Place.isOutside : Place → Bool
  | .quoted | .afterQuote => false
  | .recordStart | .fieldStart | .unquoted => true

namespace Reading

variable {reading : Reading} {byte : UInt8} {field : Field} {record : Record}

theorem step_plain (outside : reading.place.isOutside = true) (noComma : byte ≠ comma)
    (noQuote : byte ≠ doubleQuote) (noBreak : isLineBreak byte = false) :
    reading.step byte = reading.keep .unquoted byte := by
  have kept : reading.plain byte = reading.keep .unquoted byte := by
    rw [plain, beq_eq_false_iff_ne.mpr noComma, noBreak, if_neg Bool.false_ne_true,
      if_neg Bool.false_ne_true]
  have started : reading.atFieldStart byte = reading.keep .unquoted byte := by
    rw [atFieldStart, beq_eq_false_iff_ne.mpr noQuote, if_neg Bool.false_ne_true, kept]
  rw [step]
  cases place : reading.place with
  | recordStart =>
      dsimp only
      rw [noBreak, if_neg Bool.false_ne_true, started]
  | fieldStart => exact started
  | unquoted => exact kept
  | quoted | afterQuote =>
      rw [place] at outside
      cases outside

theorem step_comma (outside : reading.place.isOutside = true) :
    reading.step comma = reading.endField := by
  rw [step]
  cases place : reading.place with
  | recordStart | fieldStart | unquoted => rfl
  | quoted | afterQuote =>
      rw [place] at outside
      cases outside

theorem step_lineBreak (outside : reading.place.isOutside = true)
    (begun : reading.place ≠ .recordStart) (isBreak : isLineBreak byte = true) :
    reading.step byte = reading.endRecord := by
  have other {mark : UInt8} (noBreak : isLineBreak mark = false) : (byte == mark) = false := by
    rw [beq_eq_false_iff_ne]
    rintro rfl
    rw [isBreak] at noBreak
    cases noBreak
  have ended : reading.plain byte = reading.endRecord := by
    rw [plain, other (by decide), isBreak, if_neg Bool.false_ne_true, if_pos rfl]
  rw [step]
  cases place : reading.place with
  | recordStart => exact absurd place begun
  | fieldStart =>
      dsimp only
      rw [atFieldStart, other (by decide), if_neg Bool.false_ne_true, ended]
  | unquoted => exact ended
  | quoted | afterQuote =>
      rw [place] at outside
      cases outside

theorem foldl_step_field (outside : reading.place.isOutside = true) (plain : IsPlain field) :
    ∃ place, place.isOutside = true ∧
      (field ≠ [] ∨ reading.place ≠ .recordStart → place ≠ .recordStart) ∧
      field.foldl step reading =
        { reading with place := place, field := field.reverse ++ reading.field } := by
  induction field generalizing reading with
  | nil => exact ⟨reading.place, outside, fun begun => begun.resolve_left fun no => no rfl, rfl⟩
  | cons byte rest induction =>
      rcases List.forall_mem_cons.mp plain with ⟨⟨noComma, noQuote, noBreak⟩, plainRest⟩
      rcases @induction (reading.keep .unquoted byte) rfl plainRest with
        ⟨place, placed, begun, folded⟩
      refine ⟨place, placed, fun _ => begun (.inr nofun), ?_⟩
      rw [List.foldl_cons, step_plain outside noComma noQuote noBreak, folded, List.reverse_cons,
        List.append_assoc]
      rfl

theorem foldl_step_line (outside : reading.place.isOutside = true) (fresh : reading.field = [])
    (plain : ∀ field ∈ record, IsPlain field) (notEmpty : record ≠ []) :
    ((line record).foldl step reading).place.isOutside = true ∧
      (line record ≠ [] ∨ reading.place ≠ .recordStart →
        ((line record).foldl step reading).place ≠ .recordStart) ∧
      ((line record).foldl step reading).endRecord =
        { records := (reading.fields.reverse ++ record) :: reading.records } := by
  induction record generalizing reading with
  | nil => exact absurd rfl notEmpty
  | cons field rest induction =>
      rcases List.forall_mem_cons.mp plain with ⟨plainHere, plainLater⟩
      rcases foldl_step_field outside plainHere with ⟨place, placed, begun, folded⟩
      rw [fresh, List.append_nil] at folded
      cases rest with
      | nil =>
          rw [line, folded]
          refine ⟨placed, begun, ?_⟩
          simp [endRecord, endField]
      | cons next rest =>
          let later : Reading := { reading with
            place := .fieldStart, field := [], fields := field :: reading.fields }
          have ended : (field ++ comma :: line (next :: rest)).foldl step reading =
              (line (next :: rest)).foldl step later := by
            rw [List.foldl_append, folded, List.foldl_cons, step_comma placed, endField,
              List.reverse_reverse]
          rcases @induction later rfl rfl plainLater (List.cons_ne_nil _ _) with
            ⟨outsideLater, begunLater, complete⟩
          rw [line, ended]
          refine ⟨outsideLater, fun _ => begunLater (.inr nofun), ?_⟩
          rw [complete, List.reverse_cons, List.append_assoc]
          rfl

end Reading

/-! ## Tables -/

open Reading

variable {table : List Record} {bytes : List UInt8}

theorem foldl_step_record {record : Record} (before : List Record)
    (plain : ∀ field ∈ record, IsPlain field) (visible : line record ≠ []) :
    ((line record).foldl step { records := before }).place.isOutside = true ∧
      ((line record).foldl step { records := before }).place ≠ .recordStart ∧
      ((line record).foldl step { records := before }).endRecord =
        { records := record :: before } := by
  have notEmpty : record ≠ [] := by
    rintro rfl
    exact visible rfl
  rcases @foldl_step_line { records := before } record rfl rfl plain notEmpty with
    ⟨outside, begun, complete⟩
  exact ⟨outside, begun (.inl visible), complete⟩

theorem finish_foldl_step (written : IsWritten table bytes) (before : List Record) :
    (bytes.foldl step { records := before }).finish = before.reverse ++ table := by
  induction written generalizing before with
  | nil => exact (List.append_nil _).symm
  | @empty bytes table lineBreak isBreak later induction =>
      have skipped : step { records := before } lineBreak = { records := before } := if_pos isBreak
      rw [List.foldl_cons, skipped, induction]
  | @last record plain visible =>
      rcases foldl_step_record before plain visible with ⟨_, begun, complete⟩
      rw [finish]
      split
      · next start => exact absurd start begun
      · rw [complete, List.reverse_cons]
  | ended plain visible isBreak later induction =>
      rcases foldl_step_record before plain visible with ⟨outside, begun, complete⟩
      rw [List.foldl_append, List.foldl_cons, step_lineBreak outside begun isBreak, complete,
        induction, List.reverse_cons, List.append_assoc]
      rfl

theorem records_of_isWritten (written : IsWritten table (withoutMark bytes)) :
    records bytes = table :=
  finish_foldl_step written []

end SignalReplay.Csv
