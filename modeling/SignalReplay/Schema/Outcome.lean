import SignalReplay.Outcome.Basic
import SignalReplay.Schema.Market

/-!
Outcomes as JSON.
-/

namespace SignalReplay

namespace OutcomeLabel

def toJson (label : OutcomeLabel) : Json.Value :=
  .string label.text

def reader : Json.Reader OutcomeLabel :=
  Json.Reader.name
    [(win.text, win), (loss.text, loss), (breakEven.text, breakEven), (unknown.text, unknown)]

end OutcomeLabel

namespace Outcome

def fields : List String :=
  ["signal_id", "outcome", "r_multiple", "mae", "mfe", "exit_price", "exit_time"]

def toJson (outcome : Outcome) : Json.Value :=
  .object [
    ("signal_id", .string outcome.signalId),
    ("outcome", outcome.label.toJson),
    ("r_multiple", .optional (.real ·.value) outcome.rMultiple),
    ("mae", .optional .real outcome.adverse),
    ("mfe", .optional .real outcome.favourable),
    ("exit_price", .optional .real outcome.exitPrice),
    ("exit_time", .optional Instant.toJson outcome.exitTime)]

def reader : Json.Reader Outcome :=
  fun node => do
    let record ← Json.Record.read? fields node
    return {
      signalId := ← record.required "signal_id" Json.Reader.text
      label := ← record.required "outcome" OutcomeLabel.reader
      rMultiple := ← record.nullable "r_multiple" Json.Reader.quantity
      adverse := ← record.nullable "mae" Json.Reader.real
      favourable := ← record.nullable "mfe" Json.Reader.real
      exitPrice := ← record.nullable "exit_price" Json.Reader.real
      exitTime := ← record.nullable "exit_time" Instant.reader }

end Outcome

end SignalReplay
