import SignalReplay.Command.Arguments
import SignalReplay.Command.Run

/-!
The command line: the arguments name a command, which runs on the files of the machine.
-/

namespace SignalReplay

def FileFault.ofError : IO.Error → FileFault
  | .noFileOrDirectory _ _ _ => .missing
  | .alreadyExists _ _ _ => .alreadyThere
  | .inappropriateType _ code _ => if code = 20 then .notADirectory else .isADirectory
  | .invalidArgument _ code _ => if code = 36 then .tooLong else .notAPath
  | .resourceExhausted _ _ _ => .noRoom
  | _ => .denied

def faulty (action : IO α) : IO (Except FileFault α) := do
  match ← action.toBaseIO with
  | .ok value => return .ok value
  | .error error => return .error (.ofError error)

instance : FileStore IO where
  read path := faulty do
    return (← IO.FS.readBinFile path).toList
  write path content := faulty do
    IO.FS.writeBinFile path ⟨content.toArray⟩
  makeDirectories path := faulty do
    unless path.isEmpty do
      IO.FS.createDirAll path

def usage : String :=
  "usage: tag --candles FILE --signals FILE [--timestamp-format PATTERN] [--tie-break RULE] " ++
    "[--out FILE]\n" ++
  "       report [--config FILE] [--candles FILE] [--signals FILE] [--output-dir DIRECTORY]"

end SignalReplay

open SignalReplay in
def main (arguments : List String) : IO UInt32 := do
  match Command.ofArguments? arguments with
  | none =>
    IO.eprintln usage
    return 2
  | some command =>
    match ← (command.run .unlimited).run with
    | .ok text =>
      IO.print text
      return 0
    | .error error =>
      IO.eprintln ("Error: " ++ error.message)
      return 1
