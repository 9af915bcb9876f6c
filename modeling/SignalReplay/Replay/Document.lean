import SignalReplay.Schema.Replay

/-!
Replays as documents: the report with its figures rounded. Reading a document gives no outcomes,
and documents of a later version are refused.
-/

namespace SignalReplay

inductive DocumentError
  | malformed
  | laterVersion (version : Nat)
deriving DecidableEq, Repr

def DocumentError.message : DocumentError → String
  | .malformed => "failed to deserialize ReplayResult from JSON"
  | .laterVersion version =>
    s!"unsupported schema version {version} (max supported: {Replay.currentVersion})"

namespace Replay

def documentDecimals : UInt32 := 4

def document (replay : Replay) : String :=
  (replay.rounded documentDecimals).toJson.pretty

def ofDocument (text : String) : Except DocumentError Replay :=
  match (Json.Node.ofText? text).bind reader with
  | none => .error .malformed
  | some replay =>
    if currentVersion < replay.version then .error (.laterVersion replay.version)
    else .ok replay

end Replay

end SignalReplay
