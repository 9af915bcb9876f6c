/-!
Tables as text: records end at a line break and fields at a comma. A field that begins with a
quote ends at the next single quote, and a doubled quote inside it stands for one; a quote
elsewhere is a character like any other. Carriage return, line feed and the pair of them end a
record, and empty lines are no records. The number of fields may differ between records.
-/

namespace SignalReplay.Csv

abbrev Field := List UInt8

abbrev Record := List Field

inductive Place
  /-- At the beginning of a record, where line breaks are passed over. -/
  | recordStart
  | fieldStart
  | unquoted
  | quoted
  /-- After a quote inside a quoted field, which ends the field unless a second one follows. -/
  | afterQuote
deriving DecidableEq, Repr

/-- A table of which a part has been read, everything in reverse. -/
structure Reading where
  place : Place := .recordStart
  field : Field := []
  fields : Record := []
  records : List Record := []

def comma : UInt8 := 0x2C

def doubleQuote : UInt8 := 0x22

def isLineBreak (byte : UInt8) : Bool :=
  byte == 0xA || byte == 0xD

namespace Reading

def endField (reading : Reading) : Reading :=
  { reading with
    place := .fieldStart, field := [], fields := reading.field.reverse :: reading.fields }

def endRecord (reading : Reading) : Reading :=
  let reading := reading.endField
  { reading with
    place := .recordStart, fields := [], records := reading.fields.reverse :: reading.records }

def keep (place : Place) (reading : Reading) (byte : UInt8) : Reading :=
  { reading with place := place, field := byte :: reading.field }

def plain (reading : Reading) (byte : UInt8) : Reading :=
  if byte == comma then reading.endField
  else if isLineBreak byte then reading.endRecord
  else reading.keep .unquoted byte

def atFieldStart (reading : Reading) (byte : UInt8) : Reading :=
  if byte == doubleQuote then { reading with place := .quoted } else reading.plain byte

def step (reading : Reading) (byte : UInt8) : Reading :=
  match reading.place with
  | .recordStart => if isLineBreak byte then reading else reading.atFieldStart byte
  | .fieldStart => reading.atFieldStart byte
  | .unquoted => reading.plain byte
  | .quoted =>
    if byte == doubleQuote then { reading with place := .afterQuote }
    else reading.keep .quoted byte
  | .afterQuote =>
    if byte == doubleQuote then reading.keep .quoted byte else reading.plain byte

def finish (reading : Reading) : List Record :=
  match reading.place with
  | .recordStart => reading.records.reverse
  | _ => reading.endRecord.records.reverse

end Reading

/-- A byte order mark at the front is not part of the table. -/
def withoutMark : List UInt8 → List UInt8
  | 0xEF :: 0xBB :: 0xBF :: rest => rest
  | bytes => bytes

def records (bytes : List UInt8) : List Record :=
  ((withoutMark bytes).foldl Reading.step {}).finish

example : records [0x61, 0x2C, 0x62, 0xD, 0xA, 0xA, 0x63] =
    [[[0x61], [0x62]], [[0x63]]] := by decide

end SignalReplay.Csv
