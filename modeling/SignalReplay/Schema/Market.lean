import SignalReplay.Json.Record
import SignalReplay.Market.Candle
import SignalReplay.Signal.Basic
import SignalReplay.Tagging
import SignalReplay.Time.Timestamp

/-!
Candles, signals and tie-breaks as JSON.
-/

namespace SignalReplay

def Instant.toJson (instant : Instant) : Json.Value :=
  .string instant.toText

def Instant.reader : Json.Reader Instant :=
  fun node => (Json.Reader.text node).bind Timestamp.readStandardForm?

namespace Candle

def fields : List String :=
  ["timestamp", "open", "high", "low", "close", "volume"]

def toJson (candle : Candle) : Json.Value :=
  .object [
    ("timestamp", candle.timestamp.toJson),
    ("open", .real candle.opening.value),
    ("high", .real candle.high.value),
    ("low", .real candle.low.value),
    ("close", .real candle.closing.value),
    ("volume", .optional (.real ·.value) candle.volume)]

def reader : Json.Reader Candle :=
  fun node => do
    let record ← Json.Record.read? fields node
    return {
      timestamp := ← record.required "timestamp" Instant.reader
      opening := ← record.required "open" Json.Reader.quantity
      high := ← record.required "high" Json.Reader.quantity
      low := ← record.required "low" Json.Reader.quantity
      closing := ← record.required "close" Json.Reader.quantity
      volume := ← record.nullable "volume" Json.Reader.quantity }

end Candle

namespace Direction

def toJson (direction : Direction) : Json.Value :=
  .string direction.text

def reader : Json.Reader Direction :=
  Json.Reader.name [(long.text, long), (short.text, short)]

end Direction

namespace TieBreak

def toJson (tieBreak : TieBreak) : Json.Value :=
  .string tieBreak.text

def reader : Json.Reader TieBreak :=
  Json.Reader.name [(loss.text, loss)]

end TieBreak

namespace Signal

def fields : List String :=
  ["signal_id", "timestamp", "symbol", "timeframe", "direction", "signal_type", "entry", "sl",
    "tp", "session", "meta"]

def greatestNotesDepth : Nat := Json.greatestDepth - 1

def toJson (signal : Signal) : Json.Value :=
  .object [
    ("signal_id", .string signal.id),
    ("timestamp", signal.timestamp.toJson),
    ("symbol", .string signal.symbol),
    ("timeframe", .string signal.timeframe),
    ("direction", signal.direction.toJson),
    ("signal_type", .optional .string signal.kind),
    ("entry", .real signal.entry.value),
    ("sl", .real signal.stop.value),
    ("tp", .real signal.target.value),
    ("session", .optional .string signal.session),
    ("meta", .object signal.notes)]

def reader : Json.Reader Signal :=
  fun node => do
    let record ← Json.Record.read? fields node
    return {
      id := ← record.required "signal_id" Json.Reader.text
      timestamp := ← record.required "timestamp" Instant.reader
      symbol := ← record.required "symbol" Json.Reader.text
      timeframe := ← record.required "timeframe" Json.Reader.text
      direction := ← record.required "direction" Direction.reader
      kind := ← record.nullable "signal_type" Json.Reader.text
      entry := ← record.required "entry" Json.Reader.quantity
      stop := ← record.required "sl" Json.Reader.quantity
      target := ← record.required "tp" Json.Reader.quantity
      session := ← record.nullable "session" Json.Reader.text
      notes := ← record.orDefault "meta" [] (Json.Reader.members greatestNotesDepth) }

end Signal

end SignalReplay
