import SignalReplay.Proofs.Market.CandleTable
import SignalReplay.Proofs.Reading
import SignalReplay.Proofs.Text.Blank

/-!
What a candle table is read as. The header is looked at before any row; under a complete header the
first bad row is blamed for the whole table, and a table without one is read as one candle for each
of its rows.
-/

namespace SignalReplay.CandleTable

variable {pattern source name text : String} {header cells : List String} {record : Csv.Record}
  {fault : RowFault} {candle : Candle}

/-! ## Cells -/

/-- Bytes that spell the texts of `cells` once the blanks around them are gone. -/
def Spells (record : Csv.Record) (cells : List String) : Prop :=
  record.map Text.trimBytes = cells.map Utf8.encode

/-- A row with `text` in the first of the columns named `name`. -/
def IsUnder (header cells : List String) (name text : String) : Prop :=
  ∃ column : Nat, header[column]? = some name ∧
    (∀ earlier < column, header[earlier]? ≠ some name) ∧ cells[column]? = some text

@[simp]
theorem decodeCells_map_encode (first : Nat) (cells : List String) :
    decodeCells first (cells.map Utf8.encode) = .ok cells := by
  induction cells generalizing first with
  | nil => rfl
  | cons cell cells induction =>
      rw [List.map_cons, decodeCells, Utf8.decode_encode, induction]
      rfl

theorem eq_map_encode_of_decodeCells {first : Nat}
    (decoded : decodeCells first record = .ok cells) : record = cells.map Utf8.encode := by
  fun_induction decodeCells first record generalizing cells with
  | case1 =>
      cases decoded
      rfl
  | case2 first field rest cell text induction =>
      rcases map_eq_ok_iff.mp decoded with ⟨later, read, rfl⟩
      rw [List.map_cons, ← induction read, ← Utf8.decode_eq_ok_iff.mp text]
  | case3 => cases decoded

theorem broken_of_decodeCells {first : Nat} {broken : CellFault}
    (failed : decodeCells first record = .error broken) :
    ∃ field ∈ record, ¬ Text.IsText field := by
  fun_induction decodeCells first record with
  | case1 => cases failed
  | case2 first field rest cell text induction =>
      rcases induction (map_eq_error_iff.mp failed) with ⟨field, member, notText⟩
      exact ⟨field, List.mem_cons_of_mem _ member, notText⟩
  | case3 first field rest broken found =>
      refine ⟨field, List.mem_cons_self, ?_⟩
      rintro ⟨text, rfl⟩
      rw [Utf8.decode_encode] at found
      cases found

theorem columnOf?_eq_some_iff {column : Nat} : columnOf? header name = some column ↔
    header[column]? = some name ∧ ∀ earlier < column, header[earlier]? ≠ some name := by
  simp only [columnOf?, List.findIdx?_eq_some_iff_getElem, decide_eq_true_eq]
  constructor
  · rintro ⟨inside, here, others⟩
    refine ⟨List.getElem?_eq_some_iff.mpr ⟨inside, here⟩, fun earlier before same => ?_⟩
    exact others earlier before (List.getElem?_eq_some_iff.mp same).2
  · rintro ⟨found, others⟩
    rcases List.getElem?_eq_some_iff.mp found with ⟨inside, here⟩
    refine ⟨inside, here, fun earlier before same => ?_⟩
    exact others earlier before (List.getElem?_eq_some_iff.mpr ⟨_, same⟩)

theorem cellUnder_eq_some_iff :
    (columnOf? header name).bind (cells[·]?) = some text ↔ IsUnder header cells name text := by
  simp only [Option.bind_eq_some_iff, columnOf?_eq_some_iff, IsUnder, and_assoc]

theorem cellUnder_eq_none_iff :
    (columnOf? header name).bind (cells[·]?) = none ↔ ∀ text, ¬ IsUnder header cells name text := by
  simp only [Option.eq_none_iff_forall_ne_some, ne_eq, cellUnder_eq_some_iff]

theorem cell_eq_ok_iff : cell header cells name = .ok text ↔ IsUnder header cells name text := by
  rw [cell, ← cellUnder_eq_some_iff]
  split
  · next found => rw [found]; simp
  · next absent => rw [absent]; simp

theorem cell_eq_error_iff : cell header cells name = .error fault ↔
    (∀ text, ¬ IsUnder header cells name text) ∧ fault = .missingCell name := by
  rw [cell, ← cellUnder_eq_none_iff]
  split
  · next found => rw [found]; simp
  · next absent => rw [absent]; simp [eq_comm]

/-! ## Rows -/

def HasNumber (header cells : List String) (name : String) (number : Quantity) : Prop :=
  ∃ text, IsUnder header cells name text ∧ Numeral.read (Text.trim text) = .ok number

/-- The volume of a row. There is none where the column, the cell or its text is missing. -/
inductive HasVolume (header cells : List String) : Option Quantity → Prop
  | missing
      (blank : ∀ text, IsUnder header cells volumeColumn text → Text.isBlankText text = true) :
      HasVolume header cells none
  | given {text : String} {volume : Quantity} (here : IsUnder header cells volumeColumn text)
      (visible : Text.isBlankText text = false)
      (number : Numeral.read (Text.trim text) = .ok volume) :
      HasVolume header cells (some volume)

structure IsCandle (pattern : String) (header cells : List String) (candle : Candle) : Prop where
  timestamp : ∃ text, IsUnder header cells "timestamp" text ∧
    Timestamp.read pattern text = .ok candle.timestamp
  opening : HasNumber header cells "open" candle.opening
  high : HasNumber header cells "high" candle.high
  low : HasNumber header cells "low" candle.low
  closing : HasNumber header cells "close" candle.closing
  volume : HasVolume header cells candle.volume

inductive IsFaulty (pattern : String) (header cells : List String) : RowFault → Prop
  | missing {name : String} (required : name ∈ requiredColumns)
      (absent : ∀ text, ¬ IsUnder header cells name text) :
      IsFaulty pattern header cells (.missingCell name)
  | timestamp {text : String} {error : TimestampError}
      (here : IsUnder header cells "timestamp" text)
      (refused : Timestamp.read pattern text = .error error) :
      IsFaulty pattern header cells (.timestamp error)
  | price {name text : String} {fault : NumeralFault}
      (priced : name ∈ ["open", "high", "low", "close"]) (here : IsUnder header cells name text)
      (refused : Numeral.read (Text.trim text) = .error fault) :
      IsFaulty pattern header cells (.number name text fault)
  | volume {text : String} {fault : NumeralFault} (here : IsUnder header cells volumeColumn text)
      (visible : Text.isBlankText text = false)
      (refused : Numeral.read (Text.trim text) = .error fault) :
      IsFaulty pattern header cells (.number volumeColumn text fault)

theorem price_eq_ok_iff {number : Quantity} :
    price header cells name = .ok number ↔ HasNumber header cells name number := by
  simp only [price, readNumber, bind_eq_ok_iff, mapError_eq_ok_iff, cell_eq_ok_iff, HasNumber]

theorem isFaulty_of_price (priced : name ∈ ["open", "high", "low", "close"])
    (failed : price header cells name = .error fault) : IsFaulty pattern header cells fault := by
  rcases bind_eq_error_iff.mp failed with missing | ⟨text, here, failed⟩
  · rcases cell_eq_error_iff.mp missing with ⟨absent, rfl⟩
    exact .missing (List.mem_cons_of_mem _ priced) absent
  · rcases mapError_eq_error_iff.mp failed with ⟨cause, refused, rfl⟩
    exact .price priced (cell_eq_ok_iff.mp here) refused

theorem IsUnder.unique {other : String} (here : IsUnder header cells name text)
    (there : IsUnder header cells name other) : text = other := by
  rw [← cellUnder_eq_some_iff] at here there
  exact Option.some.inj (here.symm.trans there)

theorem volume_eq_ok_iff {number : Option Quantity} :
    volume header cells = .ok number ↔ HasVolume header cells number := by
  rw [volume]
  constructor
  · intro read
    split at read
    · next absent =>
        cases read
        exact .missing fun text here => absurd here (cellUnder_eq_none_iff.mp absent text)
    · next text found =>
        have here := cellUnder_eq_some_iff.mp found
        split at read
        · next blank =>
            cases read
            refine .missing fun other there => ?_
            rwa [← here.unique there]
        · next visible =>
            rcases map_eq_ok_iff.mp read with ⟨volume, numeral, rfl⟩
            exact .given here (Bool.not_eq_true _ ▸ visible) (mapError_eq_ok_iff.mp numeral)
  · intro holds
    cases holds with
    | missing blank =>
        split
        · rfl
        · next text found => rw [if_pos (blank text (cellUnder_eq_some_iff.mp found))]
    | given here visible read =>
        rw [cellUnder_eq_some_iff.mpr here]
        dsimp only
        rw [if_neg (Bool.not_eq_true _ ▸ visible), readNumber, read]
        rfl

theorem isFaulty_of_volume (failed : volume header cells = .error fault) :
    IsFaulty pattern header cells fault := by
  rw [volume] at failed
  split at failed
  · cases failed
  · next text here =>
      split at failed
      · cases failed
      · next visible =>
          rcases mapError_eq_error_iff.mp (map_eq_error_iff.mp failed) with ⟨cause, refused, rfl⟩
          exact .volume (cellUnder_eq_some_iff.mp here) (Bool.not_eq_true _ ▸ visible) refused

theorem candle_eq_ok_iff : CandleTable.candle pattern header cells = .ok candle ↔
    IsCandle pattern header cells candle := by
  simp only [CandleTable.candle, bind_eq_ok_iff, mapError_eq_ok_iff, cell_eq_ok_iff,
    volume_eq_ok_iff, price_eq_ok_iff, pure, Except.pure, Except.ok.injEq]
  constructor
  · rintro ⟨written, here, timestamp, timed, volume, hasVolume, opening, opens, high, tops, low,
      bottoms, closing, closes, rfl⟩
    exact ⟨⟨written, here, timed⟩, opens, tops, bottoms, closes, hasVolume⟩
  · rintro ⟨⟨written, here, timed⟩, opens, tops, bottoms, closes, hasVolume⟩
    exact ⟨written, here, _, timed, _, hasVolume, _, opens, _, tops, _, bottoms, _, closes, rfl⟩

theorem isFaulty_of_candle (failed : CandleTable.candle pattern header cells = .error fault) :
    IsFaulty pattern header cells fault := by
  rcases bind_eq_error_iff.mp failed with missing | ⟨written, here, failed⟩
  · rcases cell_eq_error_iff.mp missing with ⟨absent, rfl⟩
    exact .missing List.mem_cons_self absent
  rcases bind_eq_error_iff.mp failed with unread | ⟨timestamp, _, failed⟩
  · rcases mapError_eq_error_iff.mp unread with ⟨cause, refused, rfl⟩
    exact .timestamp (cell_eq_ok_iff.mp here) refused
  rcases bind_eq_error_iff.mp failed with unread | ⟨volume, _, failed⟩
  · exact isFaulty_of_volume unread
  rcases bind_eq_error_iff.mp failed with unread | ⟨opening, _, failed⟩
  · exact isFaulty_of_price (by simp) unread
  rcases bind_eq_error_iff.mp failed with unread | ⟨high, _, failed⟩
  · exact isFaulty_of_price (by simp) unread
  rcases bind_eq_error_iff.mp failed with unread | ⟨low, _, failed⟩
  · exact isFaulty_of_price (by simp) unread
  rcases bind_eq_error_iff.mp failed with unread | ⟨closing, _, failed⟩
  · exact isFaulty_of_price (by simp) unread
  cases failed

theorem IsCandle.hasNumber (holds : IsCandle pattern header cells candle)
    (priced : name ∈ ["open", "high", "low", "close"]) :
    ∃ number, HasNumber header cells name number := by
  simp only [List.mem_cons, List.not_mem_nil, or_false] at priced
  rcases priced with rfl | rfl | rfl | rfl
  · exact ⟨_, holds.opening⟩
  · exact ⟨_, holds.high⟩
  · exact ⟨_, holds.low⟩
  · exact ⟨_, holds.closing⟩

theorem not_isFaulty_of_isCandle (holds : IsCandle pattern header cells candle) :
    ¬ IsFaulty pattern header cells fault := by
  intro faulty
  cases faulty with
  | missing required absent =>
      rcases List.mem_cons.mp required with rfl | priced
      · rcases holds.timestamp with ⟨text, here, _⟩
        exact absent text here
      · rcases holds.hasNumber priced with ⟨number, text, here, _⟩
        exact absent text here
  | timestamp here refused =>
      rcases holds.timestamp with ⟨text, there, timed⟩
      rw [here.unique there, timed] at refused
      cases refused
  | price priced here refused =>
      rcases holds.hasNumber priced with ⟨number, text, there, read⟩
      rw [here.unique there, read] at refused
      cases refused
  | volume here visible refused =>
      have holdsVolume := holds.volume
      generalize candle.volume = volume at holdsVolume
      cases holdsVolume with
      | missing blank =>
          rw [blank _ here] at visible
          cases visible
      | given there _ read =>
          rw [here.unique there, read] at refused
          cases refused

/-! ## Tables -/

def IsGoodRow (pattern : String) (header : List String) (record : Csv.Record) (candle : Candle) :
    Prop :=
  ∃ cells, Spells record cells ∧ IsCandle pattern header cells candle

inductive IsBadRow (pattern : String) (header : List String) (record : Csv.Record) :
    RowFault → Prop
  | notText {field : Csv.Field} {fault : CellFault} (member : field ∈ record)
      (broken : ∀ text, field ≠ Utf8.encode text)
      (found : decodeCells 0 (record.map Text.trimBytes) = .error fault) :
      IsBadRow pattern header record (.notText fault)
  | faulty {cells : List String} {fault : RowFault} (spelled : Spells record cells)
      (faulty : IsFaulty pattern header cells fault) : IsBadRow pattern header record fault

variable {number : Nat} {error : LoadError}

theorem row_eq (number : Nat) (record : Csv.Record) : row pattern header number record =
    ((decodeCells 0 (record.map Text.trimBytes)).mapError RowFault.notText >>=
      CandleTable.candle pattern header).mapError
        (.badRow number (rawText (record.map Text.trimBytes))) := rfl

theorem row_eq_ok_iff_isGoodRow :
    row pattern header number record = .ok candle ↔ IsGoodRow pattern header record candle := by
  rw [row_eq, mapError_eq_ok_iff]
  simp only [bind_eq_ok_iff, mapError_eq_ok_iff, candle_eq_ok_iff, IsGoodRow, Spells]
  refine exists_congr fun cells => and_congr_left fun _ => ?_
  constructor
  · exact eq_map_encode_of_decodeCells
  · intro spelled
    rw [spelled, decodeCells_map_encode]

theorem isBadRow_of_row (failed : row pattern header number record = .error error) :
    ∃ fault, IsBadRow pattern header record fault ∧
      error = .badRow number (rawText (record.map Text.trimBytes)) fault := by
  rw [row_eq] at failed
  rcases mapError_eq_error_iff.mp failed with ⟨fault, stopped, rfl⟩
  refine ⟨fault, ?_, rfl⟩
  rcases bind_eq_error_iff.mp stopped with unread | ⟨cells, read, refused⟩
  · rcases mapError_eq_error_iff.mp unread with ⟨broken, found, rfl⟩
    rcases broken_of_decodeCells found with ⟨trimmed, member, notText⟩
    rcases List.mem_map.mp member with ⟨field, inRecord, rfl⟩
    rw [Text.isText_trimBytes_iff] at notText
    exact .notText inRecord (fun text spelled => notText ⟨text, spelled⟩) found
  · have spelled := eq_map_encode_of_decodeCells (mapError_eq_ok_iff.mp read)
    exact .faulty spelled (isFaulty_of_candle refused)

theorem not_isBadRow_of_isGoodRow (good : IsGoodRow pattern header record candle) :
    ¬ IsBadRow pattern header record fault := by
  rcases good with ⟨cells, spelled, holds⟩
  intro bad
  cases bad with
  | notText member broken found =>
      rw [spelled, decodeCells_map_encode] at found
      cases found
  | faulty otherSpelled faulty =>
      rename_i other
      have same : cells = other := by
        have decoded := congrArg (decodeCells 0) (spelled.symm.trans otherSpelled)
        rw [decodeCells_map_encode, decodeCells_map_encode] at decoded
        exact Except.ok.inj decoded
      exact not_isFaulty_of_isCandle holds (same ▸ faulty)

variable {names : List String} {records : List Csv.Record} {candles : List Candle}

theorem rows_eq_readEach (number : Nat) (records : List Csv.Record) :
    rows pattern header number records =
      readEach (fun number record => (row pattern header number record).map fun candle => [candle])
        number records := by
  induction records generalizing number with
  | nil => rfl
  | cons record rest induction =>
      rw [rows, readEach, ← induction]
      cases row pattern header number record <;> rfl

theorem rows_eq_error_iff : rows pattern header number records = .error error ↔
    ∃ before record, FailsFirst (fun number record error =>
      row pattern header number record = .error error) number records before record error := by
  rw [rows_eq_readEach]
  exact readEach_eq_error_iff fun _ _ _ => map_eq_error_iff

theorem blamed_of_rows (failed : rows pattern header 1 records = .error error) :
    ∃ before record rest fault, records = before ++ record :: rest ∧
      IsBadRow pattern header record fault ∧
      (∀ other ∈ before, ∀ fault, ¬ IsBadRow pattern header other fault) ∧
      error = .badRow (before.length + 1) (rawText (record.map Text.trimBytes)) fault := by
  rcases rows_eq_error_iff.mp failed with ⟨before, record, ⟨rest, here⟩, fails, first⟩
  rcases isBadRow_of_row fails with ⟨fault, bad, rfl⟩
  refine ⟨before, record, rest, fault, here, bad, fun other member otherFault => ?_, rfl⟩
  rcases List.mem_iff_getElem?.mp member with ⟨index, found⟩
  cases read : row pattern header (index + 1) other with
  | error cause => exact absurd read (first index other cause found)
  | ok candle => exact not_isBadRow_of_isGoodRow (row_eq_ok_iff_isGoodRow.mp read)

theorem forall₂_of_rows (loaded : rows pattern header number records = .ok candles) :
    List.Forall₂ (IsGoodRow pattern header) records candles := by
  induction records generalizing number candles with
  | nil =>
      cases loaded
      exact .nil
  | cons record rest induction =>
      rcases bind_eq_ok_iff.mp loaded with ⟨candle, read, others⟩
      rcases bind_eq_ok_iff.mp others with ⟨later, laterRead, equal⟩
      cases equal
      exact .cons (row_eq_ok_iff_isGoodRow.mp read) (induction laterRead)

theorem not_isBadRow_of_forall₂ (held : List.Forall₂ (IsGoodRow pattern header) records candles) :
    ∀ record ∈ records, ∀ fault, ¬ IsBadRow pattern header record fault := by
  induction held with
  | nil => exact List.forall_mem_nil _
  | cons good _ induction =>
      exact List.forall_mem_cons.mpr ⟨fun fault => not_isBadRow_of_isGoodRow good, induction⟩

theorem missingColumns_eq (header : List String) :
    missingColumns header = requiredColumns.filter (· ∉ header) := by
  refine List.filter_congr fun column _ => ?_
  rw [columnOf?, Bool.eq_iff_iff]
  simp only [Option.isNone_iff_eq_none, List.findIdx?_eq_none_iff, decide_eq_false_iff_not,
    decide_eq_true_eq]
  exact ⟨fun others member => others column member rfl,
    fun absent name member same => absent (same ▸ member)⟩

theorem missingColumns_eq_nil_iff :
    missingColumns header = [] ↔ ∀ column ∈ requiredColumns, column ∈ header := by
  simp only [missingColumns_eq, List.filter_eq_nil_iff, decide_not, Bool.not_eq_true',
    decide_eq_false_iff_not, not_not]

@[simp]
theorem headerNames_map_encode (names : List String) :
    headerNames (names.map Utf8.encode) = .ok (names.map Text.trim) := by
  rw [headerNames, decodeCells_map_encode]

/-- What a table is read as whose header has the given names and whose rows are given. -/
inductive ReadsAs (pattern source : String) (names : List String) (records : List Csv.Record) :
    Except LoadError CandleSeries → Prop
  | noHeader (blank : ∀ name ∈ names, Text.isBlankText name = true) :
      ReadsAs pattern source names records (.error (.noCandles source))
  | noColumns (named : ∃ name ∈ names, Text.isBlankText name = false)
      (incomplete : ∃ column ∈ requiredColumns, column ∉ names.map Text.trim) :
      ReadsAs pattern source names records
        (.error (.missingColumns (requiredColumns.filter (· ∉ names.map Text.trim))
          (names.map Text.trim)))
  | blamed {before rest : List Csv.Record} {record : Csv.Record} {fault : RowFault}
      (complete : ∀ column ∈ requiredColumns, column ∈ names.map Text.trim)
      (here : records = before ++ record :: rest)
      (bad : IsBadRow pattern (names.map Text.trim) record fault)
      (first : ∀ other ∈ before, ∀ fault, ¬ IsBadRow pattern (names.map Text.trim) other fault) :
      ReadsAs pattern source names records
        (.error (.badRow (before.length + 1) (rawText (record.map Text.trimBytes)) fault))
  | noRows (complete : ∀ column ∈ requiredColumns, column ∈ names.map Text.trim)
      (empty : records = []) : ReadsAs pattern source names records (.error (.noCandles source))
  | loaded {candles : List Candle} {series : CandleSeries}
      (complete : ∀ column ∈ requiredColumns, column ∈ names.map Text.trim)
      (notEmpty : records ≠ [])
      (sound : ∀ record ∈ records, ∀ fault, ¬ IsBadRow pattern (names.map Text.trim) record fault)
      (held : List.Forall₂ (IsGoodRow pattern (names.map Text.trim)) records candles)
      (sorted : series.toList = candles.mergeSort Candle.notLater) :
      ReadsAs pattern source names records (.ok series)

/-- A table whose header spells some names. Of a header without any name nothing else is looked at,
nor are rows under a header that lacks columns. -/
theorem read_header_then_rows {bytes : List UInt8}
    (heading : (Csv.records bytes).head?.getD [] = names.map Utf8.encode)
    (pattern source : String) :
    ReadsAs pattern source names (Csv.records bytes).tail (read pattern source bytes) := by
  unfold read
  dsimp only
  rw [heading, headerNames_map_encode]
  generalize (Csv.records bytes).tail = records
  change ReadsAs _ _ _ _ (if _ then _ else _)
  split
  · next blank =>
      exact .noHeader (by simpa using blank)
  · next visible =>
      split
      · next complete =>
          rw [missingColumns_eq_nil_iff] at complete
          cases ended : rows pattern (names.map Text.trim) 1 records with
          | error error =>
              rcases blamed_of_rows ended with ⟨before, record, rest, fault, here, bad, first, rfl⟩
              exact .blamed complete here bad first
          | ok candles =>
              have held := forall₂_of_rows ended
              cases candles with
              | nil =>
                  cases held
                  exact .noRows complete rfl
              | cons candle later =>
                  refine .loaded complete ?_ (not_isBadRow_of_forall₂ held) held
                    (CandleSeries.toList_ofList _)
                  rintro rfl
                  cases held
      · next incomplete =>
          rw [missingColumns_eq_nil_iff] at incomplete
          rw [missingColumns_eq]
          refine .noColumns ?_ (by simpa using incomplete)
          simpa using visible

def shortRow : List UInt8 :=
  Utf8.encode ("volume,timestamp, close ,open,high,low\n" ++
    ",2024-01-02 09:05:00,1,1,2,1\n7,2024-01-02 09:00:00,1\n7,today,1,1,2,1\n")

theorem read_header_then_rows_of_shortRow :
    (Csv.records shortRow).head?.getD [] =
        ["volume", "timestamp", " close ", "open", "high", "low"].map Utf8.encode ∧
      ReadsAs "%Y-%m-%d %H:%M:%S" "candles.csv"
        ["volume", "timestamp", " close ", "open", "high", "low"] (Csv.records shortRow).tail
        (read "%Y-%m-%d %H:%M:%S" "candles.csv" shortRow) :=
  ⟨by decide +kernel, read_header_then_rows (by decide +kernel) _ _⟩

end SignalReplay.CandleTable
