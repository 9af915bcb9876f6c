import SignalReplay.Schema.Outcome
import SignalReplay.Text.Blank
import SignalReplay.Text.Lines
import SignalReplay.Text.Utf8

/-!
Outcome files: one JSON object a line. Blank lines are passed over but counted.
-/

namespace SignalReplay

inductive OutcomeLinesError
  /-- A line is not text. -/
  | notText
  /-- A line, counted from 1, is no outcome. -/
  | badLine (line : Nat)
deriving DecidableEq, Repr

namespace OutcomeLines

def write (outcomes : List Outcome) : String :=
  "".intercalate (outcomes.map fun outcome => outcome.toJson.compact ++ "\n")

def line (number : Nat) (bytes : List UInt8) : Except OutcomeLinesError (Option Outcome) :=
  match Utf8.decode bytes with
  | .error _ => .error .notText
  | .ok content =>
    if Text.isBlankText content then .ok none
    else
      match (Json.Node.ofText? content).bind Outcome.reader with
      | some outcome => .ok (some outcome)
      | none => .error (.badLine number)

def outcomes (number : Nat) : List (List UInt8) → Except OutcomeLinesError (List Outcome)
  | [] => .ok []
  | bytes :: rest => do
    let found ← line number bytes
    let later ← outcomes (number + 1) rest
    return found.toList ++ later

def read (bytes : List UInt8) : Except OutcomeLinesError (List Outcome) :=
  outcomes 1 (Text.lines bytes)

end OutcomeLines

end SignalReplay
