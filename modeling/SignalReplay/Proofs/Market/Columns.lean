import Mathlib.Data.Fintype.Basic
import Mathlib.Data.List.Find
import Mathlib.Data.List.FinRange
import SignalReplay.Proofs.Csv
import SignalReplay.Proofs.Market.Reading

/-!
Candle tables by columns. Only the first column of each known name is looked at, so a table with its
columns in another order, and with other columns beside them, is read as the same candles or stops
at the same row.
-/

namespace SignalReplay.CandleTable

structure Column (height : Nat) where
  name : Csv.Field
  cells : Fin height → Csv.Field
deriving DecidableEq

def knownColumns : List String :=
  volumeColumn :: requiredColumns

variable {height : Nat}

def recordsOf (columns : List (Column height)) : List Csv.Record :=
  columns.map Column.name :: List.ofFn fun row => columns.map fun column => column.cells row

namespace Column

def title? (column : Column height) : Option String :=
  (Utf8.decode column.name).toOption.map Text.trim

def IsText (column : Column height) : Prop :=
  Text.IsText column.name ∧ ∀ row, Text.IsText (column.cells row)

end Column

/-- The same columns but for their order and for some that have other names and hold texts. The
first column of each known name is the same. -/
structure IsRelaid (left right : List (Column height)) : Prop where
  others : ∃ added removed, (left ++ added).Perm (right ++ removed) ∧
    ∀ column ∈ added ++ removed, column.IsText ∧
      ∀ name ∈ knownColumns, column.title? ≠ some name
  first : ∀ name ∈ knownColumns,
    left.find? (·.title? = some name) = right.find? (·.title? = some name)

/-- The first cell of a record that is no text, and where it stops being one. -/
def FirstBroken (record : Csv.Record) (fault : CellFault) : Prop :=
  ∃ before field rest cause, record = before ++ field :: rest ∧
    (∀ other ∈ before, Text.IsText other) ∧ Utf8.decode field = .error cause ∧
    fault = ⟨before.length, cause.validUpTo⟩

/-- Two rows fail for one reason, or each for the first of its own cells that is no text. -/
inductive RowErrorsAlike (number : Nat) (left right : Csv.Record) : LoadError → LoadError → Prop
  | same {leftRaw rightRaw : String} (fault : RowFault) :
      RowErrorsAlike number left right (.badRow number leftRaw fault)
        (.badRow number rightRaw fault)
  | notText {leftRaw rightRaw : String} {leftFault rightFault : CellFault}
      (leftBroken : FirstBroken (left.map Text.trimBytes) leftFault)
      (rightBroken : FirstBroken (right.map Text.trimBytes) rightFault) :
      RowErrorsAlike number left right (.badRow number leftRaw (.notText leftFault))
        (.badRow number rightRaw (.notText rightFault))

/-- Two tables fail alike: without candles, in rows of one number, or in their headers for the first
name of each that is no text. -/
inductive ErrorsAlike (left right : List Csv.Record) : LoadError → LoadError → Prop
  | noCandles (source : String) : ErrorsAlike left right (.noCandles source) (.noCandles source)
  | badRow {number : Nat} {leftRow rightRow : Csv.Record} {leftError rightError : LoadError}
      (leftHere : left[number]? = some leftRow) (rightHere : right[number]? = some rightRow)
      (alike : RowErrorsAlike number leftRow rightRow leftError rightError) :
      ErrorsAlike left right leftError rightError
  | header {leftNames rightNames : Csv.Record} {leftFault rightFault : CellFault}
      (leftHere : left[0]? = some leftNames) (rightHere : right[0]? = some rightNames)
      (leftBroken : FirstBroken leftNames leftFault)
      (rightBroken : FirstBroken rightNames rightFault) :
      ErrorsAlike left right (.headerNotText leftFault) (.headerNotText rightFault)

/-! ## Texts of cells -/

def textOf (field : Csv.Field) : String :=
  (Utf8.decode field).toOption.getD ""

variable {field : Csv.Field} {record : Csv.Record}

theorem decode_eq_textOf (isText : Text.IsText field) : Utf8.decode field = .ok (textOf field) := by
  rcases isText with ⟨text, rfl⟩
  rw [textOf, Utf8.decode_encode]
  rfl

theorem decodeCells_of_isText (first : Nat) (texts : ∀ field ∈ record, Text.IsText field) :
    decodeCells first record = .ok (record.map textOf) := by
  induction record generalizing first with
  | nil => rfl
  | cons field rest induction =>
      rcases List.forall_mem_cons.mp texts with ⟨here, later⟩
      rw [decodeCells, decode_eq_textOf here, induction _ later]
      rfl

theorem exists_decodeCells_eq_error (first : Nat) (broken : ∃ field ∈ record, ¬ Text.IsText field) :
    ∃ before field rest cause, record = before ++ field :: rest ∧
      (∀ other ∈ before, Text.IsText other) ∧ Utf8.decode field = .error cause ∧
      decodeCells first record = .error ⟨first + before.length, cause.validUpTo⟩ := by
  induction record generalizing first with
  | nil =>
      rcases broken with ⟨field, member, _⟩
      cases member
  | cons field rest induction =>
      rw [decodeCells]
      cases decoded : Utf8.decode field with
      | error cause => exact ⟨[], field, rest, cause, rfl, List.forall_mem_nil _, decoded, rfl⟩
      | ok text =>
          have isText : Text.IsText field := ⟨text, Utf8.decode_eq_ok_iff.mp decoded⟩
          have later : ∃ other ∈ rest, ¬ Text.IsText other := by
            rcases broken with ⟨other, member, notText⟩
            rcases List.mem_cons.mp member with rfl | inRest
            · exact absurd isText notText
            · exact ⟨other, inRest, notText⟩
          rcases induction (first + 1) later with
            ⟨before, other, after, cause, rfl, texts, found, failed⟩
          refine ⟨field :: before, other, after, cause, rfl,
            List.forall_mem_cons.mpr ⟨isText, texts⟩, found, ?_⟩
          dsimp only
          rw [failed, List.length_cons, Nat.add_assoc, Nat.add_comm 1]
          rfl

theorem exists_firstBroken (broken : ∃ field ∈ record, ¬ Text.IsText field) :
    ∃ fault, FirstBroken record fault ∧ decodeCells 0 record = .error fault := by
  rcases exists_decodeCells_eq_error 0 broken with
    ⟨before, field, rest, cause, parts, texts, found, failed⟩
  rw [Nat.zero_add] at failed
  exact ⟨_, ⟨before, field, rest, cause, parts, texts, found, rfl⟩, failed⟩

/-! ## Cells under names -/

theorem bind_findIdx? {α β : Type} (holds : α → Bool) (cell : α → β) (items : List α) :
    (items.findIdx? holds).bind (fun index => (items.map cell)[index]?) =
      (items.find? holds).map cell := by
  induction items with
  | nil => rfl
  | cons item rest induction =>
      rw [List.findIdx?_cons, List.find?_cons]
      cases holds item <;> simp [Option.bind_map, ← induction]

def Column.heading (column : Column height) : String :=
  Text.trim (textOf column.name)

theorem title?_eq {column : Column height} (isText : Text.IsText column.name) :
    column.title? = some column.heading := by
  rw [Column.title?, decode_eq_textOf isText]
  rfl

theorem cellUnder_eq {columns : List (Column height)}
    (names : ∀ column ∈ columns, Text.IsText column.name) (name : String)
    (cell : Column height → String) :
    (columnOf? (columns.map Column.heading) name).bind ((columns.map cell)[·]?) =
      (columns.find? (·.title? = some name)).map cell := by
  have same : columns.find? (·.title? = some name) = columns.find? (·.heading = name) :=
    List.find?_congr fun column member => by
      simp only [title?_eq (names column member), Option.some.injEq]
  rw [same, ← bind_findIdx?, columnOf?, List.findIdx?_map, Function.comp_def]

theorem candle_congr {pattern : String} {header other cells otherCells : List String}
    (same : ∀ name ∈ knownColumns, (columnOf? header name).bind (cells[·]?) =
      (columnOf? other name).bind (otherCells[·]?)) :
    candle pattern header cells = candle pattern other otherCells := by
  have given (name : String) (known : name ∈ knownColumns) :
      cell header cells name = cell other otherCells name := by
    rw [cell, cell, same name known]
  have measured : volume header cells = volume other otherCells := by
    rw [volume, volume, same volumeColumn List.mem_cons_self]
  unfold candle price
  rw [measured, given "timestamp" (by decide), given "open" (by decide), given "high" (by decide),
    given "low" (by decide), given "close" (by decide)]

/-! ## Rows -/

variable {pattern source : String} {left right : List (Column height)}

/-- What holds of columns of texts holds of all columns of one table if it does of the other. -/
theorem IsRelaid.forall_iff (relaid : IsRelaid left right) {holds : Column height → Prop}
    (ofText : ∀ column, column.IsText → holds column) :
    (∀ column ∈ left, holds column) ↔ ∀ column ∈ right, holds column := by
  rcases relaid.others with ⟨added, removed, permuted, texts⟩
  rcases List.forall_mem_append.mp texts with ⟨addedTexts, removedTexts⟩
  have addedHold : ∀ column ∈ added, holds column := fun column member =>
    ofText column (addedTexts column member).1
  have removedHold : ∀ column ∈ removed, holds column := fun column member =>
    ofText column (removedTexts column member).1
  calc (∀ column ∈ left, holds column)
      ↔ ∀ column ∈ left ++ added, holds column := by
        rw [List.forall_mem_append, and_iff_left addedHold]
    _ ↔ ∀ column ∈ right ++ removed, holds column :=
        forall_congr' fun column => by rw [permuted.mem_iff]
    _ ↔ ∀ column ∈ right, holds column := by
        rw [List.forall_mem_append, and_iff_left removedHold]

def rowTexts (columns : List (Column height)) (row : Fin height) : List String :=
  columns.map fun column => textOf (Text.trimBytes (column.cells row))

theorem decodeCells_row {columns : List (Column height)} {row : Fin height}
    (texts : ∀ column ∈ columns, Text.IsText (column.cells row)) :
    decodeCells 0 ((columns.map (·.cells row)).map Text.trimBytes) =
      .ok (rowTexts columns row) := by
  have trimmed : ∀ field ∈ (columns.map (·.cells row)).map Text.trimBytes, Text.IsText field := by
    simpa using texts
  rw [decodeCells_of_isText 0 trimmed, List.map_map, List.map_map]
  rfl

theorem exists_firstBroken_row {columns : List (Column height)} {row : Fin height}
    (broken : ¬ ∀ column ∈ columns, Text.IsText (column.cells row)) :
    ∃ fault, FirstBroken ((columns.map (·.cells row)).map Text.trimBytes) fault ∧
      decodeCells 0 ((columns.map (·.cells row)).map Text.trimBytes) = .error fault := by
  apply exists_firstBroken
  simpa using broken

theorem row_alike (relaid : IsRelaid left right)
    (names : ∀ column ∈ left, Text.IsText column.name) (row : Fin height) (number : Nat) :
    EndAlike (RowErrorsAlike number (left.map (·.cells row)) (right.map (·.cells row)))
      (CandleTable.row pattern (left.map Column.heading) number (left.map (·.cells row)))
      (CandleTable.row pattern (right.map Column.heading) number (right.map (·.cells row))) := by
  have otherNames := (relaid.forall_iff fun _ isText => isText.1).mp names
  rw [row_eq, row_eq]
  by_cases texts : ∀ column ∈ left, Text.IsText (column.cells row)
  · have otherTexts := (relaid.forall_iff fun _ isText => isText.2 row).mp texts
    have same : candle pattern (left.map Column.heading) (rowTexts left row) =
        candle pattern (right.map Column.heading) (rowTexts right row) := by
      refine candle_congr fun name known => ?_
      rw [rowTexts, rowTexts, cellUnder_eq names, cellUnder_eq otherNames, relaid.first name known]
    rw [decodeCells_row texts, decodeCells_row otherTexts]
    change EndAlike _ ((candle _ _ _).mapError _) ((candle _ _ _).mapError _)
    rw [same]
    cases candle pattern (right.map Column.heading) (rowTexts right row) with
    | ok found => exact .ok found
    | error fault => exact .error (.same fault)
  · have otherBroken := mt (relaid.forall_iff fun _ isText => isText.2 row).mpr texts
    rcases exists_firstBroken_row texts with ⟨fault, broken, failed⟩
    rcases exists_firstBroken_row otherBroken with ⟨otherFault, otherBroken, otherFailed⟩
    rw [failed, otherFailed]
    exact .error (.notText broken otherBroken)

theorem rows_alike {header other : List String} {lefts rights : List Csv.Record}
    (alike : List.Forall₂ (fun left right => ∀ number, EndAlike (RowErrorsAlike number left right)
      (CandleTable.row pattern header number left) (CandleTable.row pattern other number right))
      lefts rights) (number : Nat) :
    EndAlike (fun leftError rightError => ∃ index left right, lefts[index]? = some left ∧
        rights[index]? = some right ∧
          RowErrorsAlike (index + number) left right leftError rightError)
      (rows pattern header number lefts) (rows pattern other number rights) := by
  induction alike generalizing number with
  | nil => exact .ok []
  | @cons left right _ _ here _ induction =>
      refine EndAlike.bind ((here number).imp fun _ _ errors => ?_) fun candle =>
        EndAlike.bind ((induction (number + 1)).imp ?_) fun later => .ok _
      · exact ⟨0, left, right, rfl, rfl, by rwa [Nat.zero_add]⟩
      · rintro _ _ ⟨index, leftRow, rightRow, leftHere, rightHere, errors⟩
        exact ⟨index + 1, leftRow, rightRow, leftHere, rightHere,
          by rwa [Nat.succ_add_eq_add_succ]⟩

/-! ## Tables -/

def IsComplete (columns : List (Column height)) : Prop :=
  ∀ name ∈ requiredColumns, (columns.find? (·.title? = some name)).isSome

theorem IsRelaid.isComplete (relaid : IsRelaid left right) (complete : IsComplete left) :
    IsComplete right := by
  intro name required
  rw [← relaid.first name (List.mem_cons_of_mem _ required)]
  exact complete name required

theorem mem_headings {columns : List (Column height)}
    (names : ∀ column ∈ columns, Text.IsText column.name) (complete : IsComplete columns) :
    ∀ name ∈ requiredColumns, name ∈ columns.map Column.heading := by
  intro name required
  rcases Option.isSome_iff_exists.mp (complete name required) with ⟨column, found⟩
  have titled := List.find?_some found
  rw [title?_eq (names column (List.mem_of_find?_eq_some found)), decide_eq_true_eq,
    Option.some.injEq] at titled
  rw [← titled]
  exact List.mem_map_of_mem (List.mem_of_find?_eq_some found)

theorem read_of_names {columns : List (Column height)} {bytes : List UInt8}
    (table : Csv.records bytes = recordsOf columns)
    (names : ∀ column ∈ columns, Text.IsText column.name) (complete : IsComplete columns) :
    read pattern source bytes =
      rows pattern (columns.map Column.heading) 1
          (List.ofFn fun row => columns.map (·.cells row)) >>= fun candles =>
        if candles.isEmpty then .error (.noCandles source) else .ok (.ofList candles) := by
  have headings : headerNames (columns.map Column.name) = .ok (columns.map Column.heading) := by
    rw [headerNames, decodeCells_of_isText 0 (by simpa using names), List.map_map]
    exact congrArg Except.ok List.map_map
  have members := mem_headings names complete
  have visible : (columns.map Column.heading).all Text.isBlankText = false := by
    rw [List.all_eq_false]
    exact ⟨"open", members "open" (by decide), by decide⟩
  unfold read
  dsimp only
  rw [table, recordsOf, List.head?_cons, Option.getD_some, headings, List.tail_cons]
  change (if _ then _ else _) = _
  rw [visible, if_neg Bool.false_ne_true, missingColumns_eq_nil_iff.mpr members]

theorem read_of_broken_name {columns : List (Column height)} {bytes : List UInt8}
    (table : Csv.records bytes = recordsOf columns)
    (broken : ¬ ∀ column ∈ columns, Text.IsText column.name) :
    ∃ fault, FirstBroken (columns.map Column.name) fault ∧
      read pattern source bytes = .error (.headerNotText fault) := by
  rcases @exists_firstBroken (columns.map Column.name) (by simpa using broken) with
    ⟨fault, broken, failed⟩
  refine ⟨fault, broken, ?_⟩
  unfold read headerNames
  dsimp only
  rw [table, recordsOf, List.head?_cons, Option.getD_some, failed]
  rfl

/-- Columns with the names that candles need may stand anywhere in a table, and any other columns of
texts beside them. Such tables are read as the same series or fail alike: in the rows of one number
and for one reason, which tells of a cell that is no text by its place in its own table. -/
theorem read_of_isRelaid {bytes other : List UInt8} (relaid : IsRelaid left right)
    (complete : IsComplete left)
    (written : Csv.IsWritten (recordsOf left) (Csv.withoutMark bytes))
    (otherWritten : Csv.IsWritten (recordsOf right) (Csv.withoutMark other)) :
    EndAlike (ErrorsAlike (recordsOf left) (recordsOf right)) (read pattern source bytes)
      (read pattern source other) := by
  have table := Csv.records_of_isWritten written
  have otherTable := Csv.records_of_isWritten otherWritten
  by_cases names : ∀ column ∈ left, Text.IsText column.name
  · have otherNames := (relaid.forall_iff fun _ isText => isText.1).mp names
    have alike : List.Forall₂ (fun leftRow rightRow => ∀ number,
        EndAlike (RowErrorsAlike number leftRow rightRow)
          (CandleTable.row pattern (left.map Column.heading) number leftRow)
          (CandleTable.row pattern (right.map Column.heading) number rightRow))
        (List.ofFn fun row => left.map (·.cells row))
        (List.ofFn fun row => right.map (·.cells row)) := by
      rw [List.ofFn_eq_map, List.ofFn_eq_map, List.forall₂_map_left_iff,
        List.forall₂_map_right_iff, List.forall₂_same]
      exact fun row _ => row_alike relaid names row
    rw [read_of_names table names complete,
      read_of_names otherTable otherNames (relaid.isComplete complete)]
    refine EndAlike.bind ((rows_alike alike 1).imp ?_) fun candles => ?_
    · rintro _ _ ⟨index, leftRow, rightRow, leftHere, rightHere, errors⟩
      exact .badRow leftHere rightHere errors
    · split
      · exact .error (.noCandles source)
      · exact .ok _
  · have otherBroken := mt (relaid.forall_iff fun _ isText => isText.1).mpr names
    rcases read_of_broken_name table names with ⟨fault, broken, failed⟩
    rcases read_of_broken_name otherTable otherBroken with ⟨otherFault, otherBroken, otherFailed⟩
    rw [failed, otherFailed]
    exact .error (.header rfl rfl broken otherBroken)

/-! ## A table with a column moved -/

def columnOfOne (name : String) (cell : Csv.Field) : Column 1 :=
  ⟨Utf8.encode name, fun _ => cell⟩

def fourColumns : List (Column 1) :=
  [columnOfOne "timestamp" (Utf8.encode "2024-01-02 09:05:00"),
    columnOfOne "open" (Utf8.encode "1"), columnOfOne " high " (Utf8.encode "2"),
    columnOfOne "low" (Utf8.encode "1")]

def noteColumn : Column 1 :=
  columnOfOne "note" (Utf8.encode "quiet")

def closeLast (cell : Csv.Field) : List (Column 1) :=
  fourColumns ++ [columnOfOne "close" cell]

def closeFirst (cell : Csv.Field) : List (Column 1) :=
  columnOfOne "close" cell :: noteColumn :: fourColumns

theorem perm_closeFirst (cell : Csv.Field) :
    (closeLast cell ++ [noteColumn]).Perm (closeFirst cell ++ []) := by
  rw [closeLast, List.append_assoc, List.append_nil]
  exact List.perm_append_comm

@[simp]
theorem title?_columnOfOne (name : String) (cell : Csv.Field) :
    (columnOfOne name cell).title? = some (Text.trim name) := by
  rw [Column.title?, columnOfOne, Utf8.decode_encode]
  rfl

theorem isRelaid_closeFirst (cell : Csv.Field) : IsRelaid (closeLast cell) (closeFirst cell) := by
  have trimmed : ["timestamp", "open", " high ", "low", "close", "note"].map Text.trim =
      ["timestamp", "open", "high", "low", "close", "note"] := by
    rfl
  simp only [List.map_cons, List.map_nil, List.cons.injEq, and_true] at trimmed
  refine ⟨⟨[noteColumn], [], perm_closeFirst cell, ?_⟩, ?_⟩
  · rw [List.append_nil, List.forall_mem_singleton]
    refine ⟨⟨⟨"note", rfl⟩, fun _ => ⟨"quiet", rfl⟩⟩, ?_⟩
    rw [noteColumn, title?_columnOfOne]
    simp [knownColumns, requiredColumns, volumeColumn, trimmed]
  · simp [knownColumns, requiredColumns, volumeColumn, closeLast, closeFirst, fourColumns, noteColumn, trimmed]

def tableOf (columns : List (Column height)) : List UInt8 :=
  Csv.write (recordsOf columns)

theorem isWritten_tableOf {columns : List (Column height)}
    (plain : ∀ record ∈ recordsOf columns, ∀ field ∈ record, Csv.IsPlain field)
    (visible : ∀ record ∈ recordsOf columns, Csv.line record ≠ [])
    (unmarked : Csv.withoutMark (tableOf columns) = tableOf columns) :
    Csv.IsWritten (recordsOf columns) (Csv.withoutMark (tableOf columns)) := by
  rw [unmarked]
  exact Csv.isWritten_write plain visible

theorem read_of_isRelaid_closeFirst :
    ∃ series,
      read Timestamp.standardPattern "candles.csv" (tableOf (closeLast (Utf8.encode "2"))) =
        .ok series ∧
      read Timestamp.standardPattern "candles.csv" (tableOf (closeFirst (Utf8.encode "2"))) =
        .ok series := by
  have relaid : IsRelaid (closeLast (Utf8.encode "2")) (closeFirst (Utf8.encode "2")) :=
    isRelaid_closeFirst _
  have complete : IsComplete (closeLast (Utf8.encode "2")) := by
    unfold IsComplete
    with_unfolding_all decide
  have written := @isWritten_tableOf _ (closeLast (Utf8.encode "2"))
    (by with_unfolding_all decide) (by decide +kernel) (by decide +kernel)
  have otherWritten := @isWritten_tableOf _ (closeFirst (Utf8.encode "2"))
    (by with_unfolding_all decide) (by decide +kernel) (by decide +kernel)
  have loads : (read Timestamp.standardPattern "candles.csv"
      (tableOf (closeLast (Utf8.encode "2")))).isOk = true := by
    with_unfolding_all decide
  have alike := @read_of_isRelaid _ Timestamp.standardPattern "candles.csv" _ _ _ _ relaid complete
    written otherWritten
  rcases exists_eq_ok loads with ⟨series, loaded⟩
  exact ⟨series, loaded, alike.eq_ok loaded⟩

/-- The cell that a table fails for because it is no text. -/
def brokenCell? : Except LoadError CandleSeries → Option CellFault
  | .error (.badRow _ _ (.notText fault)) => some fault
  | _ => none

/-- A cell that is no text is blamed by its place, which another order of the columns changes. -/
theorem brokenCell?_closeFirst :
    IsRelaid (closeLast [0xFF]) (closeFirst [0xFF]) ∧ IsComplete (closeLast [0xFF]) ∧
      brokenCell? (read Timestamp.standardPattern "candles.csv" (tableOf (closeLast [0xFF]))) =
        some ⟨4, 0⟩ ∧
      brokenCell? (read Timestamp.standardPattern "candles.csv" (tableOf (closeFirst [0xFF]))) =
        some ⟨0, 0⟩ := by
  refine ⟨isRelaid_closeFirst _, ?_, by with_unfolding_all decide, by decide +kernel⟩
  unfold IsComplete
  with_unfolding_all decide

end SignalReplay.CandleTable
