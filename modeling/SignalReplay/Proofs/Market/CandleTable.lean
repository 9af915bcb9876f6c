import SignalReplay.Market.CandleTable
import SignalReplay.Proofs.Failure
import SignalReplay.Proofs.Market.Series
import SignalReplay.Proofs.Rearrangement

/-!
Candle tables row by row. A table loads exactly if its header names the columns and each of its rows
is a candle by itself; where in the table a row stands shows only in errors.
-/

namespace SignalReplay.CandleTable

/-- The candle of a row, wherever in a table the row stands. -/
def candleOf? (pattern : String) (header : List String) (record : Csv.Record) : Option Candle :=
  (row pattern header 0 record).toOption

variable {pattern source : String} {header : List String}

theorem row_eq_ok_iff (number : Nat) (record : Csv.Record) (candle : Candle) :
    row pattern header number record = .ok candle ↔
      candleOf? pattern header record = some candle := by
  unfold candleOf? row
  dsimp only
  generalize (decodeCells 0 (record.map Text.trimBytes)).mapError RowFault.notText >>= _ = read
  rw [mapError_eq_ok_iff]
  cases read with
  | error fault =>
      change Except.error fault = Except.ok candle ↔ none = some candle
      simp
  | ok found =>
      change Except.ok found = Except.ok candle ↔ some found = some candle
      simp

theorem rows_eq_ok_iff {number : Nat} {records : List Csv.Record} {candles : List Candle} :
    rows pattern header number records = .ok candles ↔
      (∀ record ∈ records, (candleOf? pattern header record).isSome) ∧
        candles = records.filterMap (candleOf? pattern header) := by
  induction records generalizing number candles with
  | nil =>
      simp only [rows, Except.ok.injEq, List.filterMap_nil, List.not_mem_nil, false_implies,
        implies_true, true_and]
      exact eq_comm
  | cons record rest induction =>
      simp only [rows, bind_eq_ok_iff, row_eq_ok_iff, induction, List.forall_mem_cons,
        List.filterMap_cons]
      cases candleOf? pattern header record with
      | none => simp
      | some candle =>
          simp only [pure, Except.pure, Except.ok.injEq, Option.some.injEq, Option.isSome_some,
            true_and, and_assoc, exists_eq_left']
          constructor
          · rintro ⟨later, read, rfl, rfl⟩
            exact ⟨read, rfl⟩
          · rintro ⟨read, rfl⟩
            exact ⟨_, read, rfl, rfl⟩

theorem isEmpty_candles {record : Csv.Record} {rest : List Csv.Record}
    (read : ∀ other ∈ record :: rest, (candleOf? pattern header other).isSome) :
    ((record :: rest).filterMap (candleOf? pattern header)).isEmpty = false := by
  rcases Option.isSome_iff_exists.mp (read record List.mem_cons_self) with ⟨candle, found⟩
  rw [List.filterMap_cons, found]
  rfl

theorem read_eq_ok_iff {bytes : List UInt8} {heading : Csv.Record} {records : List Csv.Record}
    (table : Csv.records bytes = heading :: records) {series : CandleSeries} :
    read pattern source bytes = .ok series ↔
      ∃ header, headerNames heading = .ok header ∧ header.all Text.isBlankText = false ∧
        missingColumns header = [] ∧ records ≠ [] ∧
        (∀ record ∈ records, (candleOf? pattern header record).isSome) ∧
        series = .ofList (records.filterMap (candleOf? pattern header)) := by
  unfold read
  dsimp only
  rw [table, List.head?_cons, Option.getD_some, List.tail_cons]
  rw [bind_eq_ok_iff]
  refine exists_congr fun header => and_congr_right fun _ => ?_
  cases blank : header.all Text.isBlankText with
  | true => simp
  | false =>
      rw [if_neg Bool.false_ne_true]
      cases missing : missingColumns header with
      | cons column columns => simp
      | nil =>
          simp only [bind_eq_ok_iff, rows_eq_ok_iff, true_and]
          constructor
          · rintro ⟨_, ⟨read, rfl⟩, loaded⟩
            cases records with
            | nil => cases loaded
            | cons record rest =>
                rw [isEmpty_candles read, if_neg Bool.false_ne_true] at loaded
                exact ⟨List.cons_ne_nil _ _, read, (Except.ok.inj loaded).symm⟩
          · rintro ⟨notEmpty, read, rfl⟩
            cases records with
            | nil => exact absurd rfl notEmpty
            | cons record rest =>
                refine ⟨_, ⟨read, rfl⟩, ?_⟩
                rw [isEmpty_candles read, if_neg Bool.false_ne_true]

/-! ## Rows in another order -/

def timestampOf? (pattern : String) (header : List String) (record : Csv.Record) :
    Option Instant :=
  (candleOf? pattern header record).map (·.timestamp)

/-- A table under the same header, whose rows stand in another order that leaves rows of one
timestamp as they were. -/
def IsRearranged (pattern : String) (bytes other : List UInt8) : Prop :=
  ∃ heading rows otherRows, Csv.records bytes = heading :: rows ∧
    Csv.records other = heading :: otherRows ∧
    ∀ header, headerNames heading = .ok header →
      Rearranged (timestampOf? pattern header) rows otherRows

theorem read_of_isRearranged {bytes other : List UInt8} {series : CandleSeries}
    (loaded : read pattern source bytes = .ok series)
    (rearranged : IsRearranged pattern bytes other) :
    read pattern source other = .ok series := by
  rcases rearranged with ⟨heading, rows, otherRows, table, otherTable, rearranged⟩
  rcases (read_eq_ok_iff table).mp loaded with
    ⟨header, names, notBlank, missing, notEmpty, allRead, rfl⟩
  have rearranged := rearranged header names
  refine (read_eq_ok_iff otherTable).mpr ⟨header, names, notBlank, missing, ?_, ?_, ?_⟩
  · rintro rfl
    exact notEmpty rearranged.perm.symm.eq_nil
  · intro record member
    exact allRead record (rearranged.perm.mem_iff.mp member)
  · have sorted := rearranged.mergeSort_filterMap
    unfold CandleSeries.ofList
    congr 2
    exact sorted.symm

end SignalReplay.CandleTable
