import SignalReplay.Decimal.Numeral
import SignalReplay.Files.Fault
import SignalReplay.Json.Value
import SignalReplay.Signal.Direction
import SignalReplay.Text.Quoted
import SignalReplay.Text.Utf8
import SignalReplay.Time.Timestamp

/-!
Why candles or signals cannot be loaded. A load fails as a whole, and its error names the record
that failed it, the record's text and the cause.
-/

namespace SignalReplay

/-- A cell of a table that is not text: the cell's place in its record, counted from 0, and the
number of bytes before the fault. -/
structure CellFault where
  cell : Nat
  validUpTo : Nat
deriving DecidableEq, Repr

def CellFault.message (fault : CellFault) : String :=
  s!"invalid utf-8: invalid UTF-8 in field {fault.cell} near byte index {fault.validUpTo}"

inductive RowFault
  | notText (fault : CellFault)
  | missingCell (column : String)
  | timestamp (error : TimestampError)
  | number (column text : String) (fault : NumeralFault)

def RowFault.message : RowFault → String
  | .notText fault => s!"invalid UTF-8: {fault.message}"
  | .missingCell column => s!"missing field '{column}'"
  | .timestamp error => error.message
  | .number column text fault => s!"invalid {column} '{text}': {fault.message}"

inductive LineFault
  | notText (fault : Utf8.Fault)
  | notJson
  | notAnObject
  | missingTimestamp
  | timestamp (error : TimestampError)
  | direction (error : DirectionError)
  /-- A field that must be a text has another value. -/
  | textExpected (field : String) (value : Json.Value)
  | numberExpected (field : String) (value : Json.Value)
  | membersExpected (field : String) (value : Json.Value)
  /-- A field's text is not a number. -/
  | number (field text : String) (fault : NumeralFault)

def LineFault.message : LineFault → String
  | .notText fault => s!"invalid UTF-8: {fault.message}"
  | .notJson => "invalid JSON"
  | .notAnObject => "expected a JSON object"
  | .missingTimestamp => "missing timestamp"
  | .timestamp error => error.message
  | .direction error => error.message
  | .textExpected field value => s!"{field} must be a string, got {value.compact}"
  | .numberExpected field value => s!"{field} must be a number, got {value.compact}"
  | .membersExpected field value => s!"{field} must be an object, got {value.compact}"
  | .number field text fault => s!"invalid {field} '{text}': {fault.message}"

inductive LoadError
  | notFound (path : String)
  | missingColumns (missing found : List String)
  /-- Rows are counted from 1 after the header. -/
  | badRow (row : Nat) (raw : String) (fault : RowFault)
  /-- Lines are counted from 1, blank ones included. -/
  | badLine (line : Nat) (raw : String) (fault : LineFault)
  | noCandles (source : String)
  | noSignals (source : String)
  | unreadable (fault : FileFault)
  /-- The table cannot be read at all. -/
  | unreadableTable (fault : FileFault)
  | headerNotText (fault : CellFault)

def LoadError.message : LoadError → String
  | .notFound path => s!"source not found: {path}"
  | .missingColumns missing found =>
    s!"missing required columns {Text.quoteList missing} (found {Text.quoteList found})"
  | .badRow row raw fault => s!"row {row}: {fault.message} (raw: '{raw}')"
  | .badLine line raw fault => s!"line {line}: {fault.message} (raw: '{raw}')"
  | .noCandles source => s!"no candle rows in {source}"
  | .noSignals source => s!"no signals in {source}"
  | .unreadable fault => s!"I/O error: {fault.message}"
  | .unreadableTable fault => s!"CSV error: {fault.message}"
  | .headerNotText fault =>
    s!"CSV error: CSV parse error: record 0 (line 1, field: {fault.cell}, byte: 0): {fault.message}"

end SignalReplay
