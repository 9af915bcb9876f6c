import SignalReplay.Csv
import SignalReplay.LoadError
import SignalReplay.Market.Series

/-!
Candle tables. The header names the columns in any order; every row must be a candle, and the
first one that is not fails the whole table.
-/

namespace SignalReplay.CandleTable

def requiredColumns : List String :=
  ["timestamp", "open", "high", "low", "close"]

def volumeColumn : String := "volume"

def decodeCells (cell : Nat) : Csv.Record → Except CellFault (List String)
  | [] => .ok []
  | field :: rest =>
    match Utf8.decode field with
    | .ok text => (decodeCells (cell + 1) rest).map (text :: ·)
    | .error fault => .error ⟨cell, fault.validUpTo⟩

/-- Where a column stands among the header's names. Of columns with one name the first counts. -/
def columnOf? (header : List String) (name : String) : Option Nat :=
  header.findIdx? (· = name)

def missingColumns (header : List String) : List String :=
  requiredColumns.filter fun name => (columnOf? header name).isNone

def cell (header cells : List String) (name : String) : Except RowFault String :=
  match (columnOf? header name).bind (cells[·]?) with
  | some text => .ok text
  | none => .error (.missingCell name)

def readNumber (name text : String) : Except RowFault Quantity :=
  (Numeral.read (Text.trim text)).mapError (.number name text)

def price (header cells : List String) (name : String) : Except RowFault Quantity := do
  readNumber name (← cell header cells name)

def volume (header cells : List String) : Except RowFault (Option Quantity) :=
  match (columnOf? header volumeColumn).bind (cells[·]?) with
  | none => .ok none
  | some text =>
    if Text.isBlankText text then .ok none
    else (readNumber volumeColumn text).map some

/-- The candle in a row's cells. The timestamp is looked at first, then the volume, then the
prices. -/
def candle (pattern : String) (header cells : List String) : Except RowFault Candle := do
  let written ← cell header cells "timestamp"
  let timestamp ← (Timestamp.read pattern written).mapError .timestamp
  let volume ← volume header cells
  return {
    timestamp, volume
    opening := ← price header cells "open"
    high := ← price header cells "high"
    low := ← price header cells "low"
    closing := ← price header cells "close" }

def rawText (record : Csv.Record) : String :=
  ",".intercalate (record.map Utf8.decodeLossy)

/-- The candle of a row. Blanks around a cell are dropped before anything else. -/
def row (pattern : String) (header : List String) (number : Nat) (record : Csv.Record) :
    Except LoadError Candle :=
  let record := record.map Text.trimBytes
  let result := do
    candle pattern header (← (decodeCells 0 record).mapError RowFault.notText)
  result.mapError (.badRow number (rawText record))

/-- Rows in order, counted from `number`; the first bad one ends the reading. -/
def rows (pattern : String) (header : List String) (number : Nat) :
    List Csv.Record → Except LoadError (List Candle)
  | [] => .ok []
  | record :: rest => do
    let candle ← row pattern header number record
    return candle :: (← rows pattern header (number + 1) rest)

def headerNames (record : Csv.Record) : Except LoadError (List String) :=
  match decodeCells 0 record with
  | .ok names => .ok (names.map Text.trim)
  | .error fault => .error (.headerNotText fault)

def read (pattern source : String) (bytes : List UInt8) : Except LoadError CandleSeries := do
  let records := Csv.records bytes
  let header ← headerNames (records.head?.getD [])
  if header.all Text.isBlankText then .error (.noCandles source)
  else
    match missingColumns header with
    | [] =>
      let candles ← rows pattern header 1 records.tail
      if candles.isEmpty then .error (.noCandles source) else .ok (.ofList candles)
    | missing => .error (.missingColumns missing header)

end SignalReplay.CandleTable
