/-!
Why a file cannot be read or written.
-/

namespace SignalReplay

inductive FileFault
  | missing
  | notADirectory
  | isADirectory
  | alreadyThere
  | denied
  | noRoom
  /-- A name or the whole path has too many bytes. -/
  | tooLong
  /-- The path holds a character that no path can hold. -/
  | notAPath
  /-- The content is not text. -/
  | notText
deriving DecidableEq, Repr

def FileFault.message : FileFault → String
  | .missing => "No such file or directory (os error 2)"
  | .notADirectory => "Not a directory (os error 20)"
  | .isADirectory => "Is a directory (os error 21)"
  | .alreadyThere => "File exists (os error 17)"
  | .denied => "Permission denied (os error 13)"
  | .noRoom => "No space left on device (os error 28)"
  | .tooLong => "File name too long (os error 36)"
  | .notAPath => "file name contained an unexpected NUL byte"
  | .notText => "stream did not contain valid UTF-8"

def FileFault.isAbsent : FileFault → Bool
  | .missing | .notADirectory | .tooLong | .notAPath => true
  | _ => false

end SignalReplay
