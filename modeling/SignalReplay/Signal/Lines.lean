import SignalReplay.Json.Node
import SignalReplay.LoadError
import SignalReplay.Signal.Basic
import SignalReplay.Text.Lines

/-!
Signal files: one JSON object a line. Blank lines are passed over but counted; every other line
must be a signal, and the first one that is not fails the whole file.
-/

namespace SignalReplay.SignalLines

/-! ## Fields -/

def given? (members : List (String × Json.Value)) (field : String) : Option Json.Value :=
  match Json.member? members field with
  | none | some .null => none
  | some value => some value

/-- The identifier of the signal in a line. A number stands for its written form, and a signal
without an identifier is named after its line. -/
def identifier (members : List (String × Json.Value)) (line : Nat) : Except LineFault String :=
  match given? members "signal_id" with
  | none => .ok s!"sig_{line}"
  | some (.string text) => .ok text
  | some (.number number) => .ok number.write
  | some value => .error (.textExpected "signal_id" value)

def text (members : List (String × Json.Value)) (field : String) :
    Except LineFault (Option String) :=
  match given? members field with
  | none => .ok none
  | some (.string text) => .ok (some text)
  | some value => .error (.textExpected field value)

/-- A price, given as a number or as the text of one. A missing price is zero. -/
def price (members : List (String × Json.Value)) (field : String) : Except LineFault Quantity :=
  match given? members field with
  | none => .ok (.ofFloat 0.0)
  | some (.number number) => .ok (.ofFloat number.toFloat)
  | some (.string text) => (Numeral.read (Text.trim text)).mapError (.number field text)
  | some value => .error (.numberExpected field value)

def notes (members : List (String × Json.Value)) :
    Except LineFault (List (String × Json.Value)) :=
  match given? members "meta" with
  | none => .ok []
  | some (.object members) => .ok members
  | some value => .error (.membersExpected "meta" value)

/-! ## Signals -/

def timestamp (pattern : String) (members : List (String × Json.Value)) :
    Except LineFault Instant := do
  match ← text members "timestamp" with
  | none => .error .missingTimestamp
  | some written => (Timestamp.read pattern written).mapError .timestamp

def direction (members : List (String × Json.Value)) : Except LineFault Direction := do
  let written ← text members "direction"
  (Direction.read (written.getD "")).mapError .direction

def signal (pattern : String) (line : Nat) (members : List (String × Json.Value)) :
    Except LineFault Signal := do
  let id ← identifier members line
  let timestamp ← timestamp pattern members
  let direction ← direction members
  let notes ← notes members
  return {
    id, timestamp, direction, notes
    symbol := (← text members "symbol").getD ""
    timeframe := (← text members "timeframe").getD ""
    kind := ← text members "signal_type"
    entry := ← price members "entry"
    stop := ← price members "sl"
    target := ← price members "tp"
    session := ← text members "session" }

def parse (pattern : String) (line : Nat) (content : String) : Except LineFault Signal :=
  match Json.Value.ofText? content with
  | none => .error .notJson
  | some (.object members) => signal pattern line members
  | some _ => .error .notAnObject

def line (pattern : String) (number : Nat) (bytes : List UInt8) :
    Except LoadError (Option Signal) :=
  match Utf8.decode bytes with
  | .error fault => .error (.badLine number (Utf8.decodeLossy bytes) (.notText fault))
  | .ok content =>
    if Text.isBlankText content then .ok none
    else
      match parse pattern number content with
      | .ok signal => .ok (some signal)
      | .error fault => .error (.badLine number content fault)

def signals (pattern : String) (number : Nat) : List (List UInt8) → Except LoadError (List Signal)
  | [] => .ok []
  | bytes :: rest => do
    let found ← line pattern number bytes
    let later ← signals pattern (number + 1) rest
    return found.toList ++ later

/-- The signals of a file in order of their timestamps. Signals that share a timestamp keep the
order of their lines. -/
def read (pattern source : String) (bytes : List UInt8) : Except LoadError (List Signal) := do
  let found ← signals pattern 1 (Text.lines bytes)
  if found.isEmpty then .error (.noSignals source)
  else .ok (found.mergeSort Signal.notLater)

end SignalReplay.SignalLines
