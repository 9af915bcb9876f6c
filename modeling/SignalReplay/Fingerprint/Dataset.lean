import SignalReplay.Fingerprint.Blake3
import SignalReplay.Market.Series
import SignalReplay.Signal.Basic
import SignalReplay.Text.Utf8

/-!
Fingerprints of datasets. The bytes of a dataset hold everything a replay looks at, to the
microsecond: first all candles, each in 48 bytes, and then all signals. Texts carry their length
in front, so neighbouring ones cannot run into each other.
-/

namespace SignalReplay.Fingerprint

def word64 (value : Nat) : List UInt8 :=
  LittleEndian.encode 8 value

/-- A number below zero is written as its complement to `2 ^ 64`. -/
def signed64 (value : Int) : List UInt8 :=
  word64 (value % 0x10000000000000000).toNat

def instantBytes (instant : Instant) : List UInt8 :=
  signed64 instant.micros

def quantityBytes (quantity : Quantity) : List UInt8 :=
  word64 quantity.bits

def missingBits : Nat := 0x7FF8000000000000

def volumeBytes : Option Quantity → List UInt8
  | none => word64 missingBits
  | some volume => quantityBytes volume

def textBytes (text : String) : List UInt8 :=
  let bytes := Utf8.encode text
  word64 bytes.length ++ bytes

def optionalTextBytes : Option String → List UInt8
  | none => [0]
  | some text => 1 :: textBytes text

def candleBytes (candle : Candle) : List UInt8 :=
  instantBytes candle.timestamp ++ quantityBytes candle.opening ++ quantityBytes candle.high ++
    quantityBytes candle.low ++ quantityBytes candle.closing ++ volumeBytes candle.volume

def signalBytes (signal : Signal) : List UInt8 :=
  textBytes signal.id ++ instantBytes signal.timestamp ++ textBytes signal.symbol ++
    textBytes signal.timeframe ++ textBytes signal.direction.text ++
    optionalTextBytes signal.kind ++ optionalTextBytes signal.session ++
    quantityBytes signal.entry ++ quantityBytes signal.stop ++ quantityBytes signal.target

def datasetBytes (series : CandleSeries) (signals : List Signal) : List UInt8 :=
  series.toList.flatMap candleBytes ++ signals.flatMap signalBytes

def hexText (bytes : List UInt8) : String :=
  String.ofList (bytes.flatMap fun byte =>
    [Nat.digitChar (byte.toNat / 16), Nat.digitChar (byte.toNat % 16)])

def ofDataset (series : CandleSeries) (signals : List Signal) : String :=
  hexText (Blake3.hash (datasetBytes series signals))

end SignalReplay.Fingerprint
