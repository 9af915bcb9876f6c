import SignalReplay.Files.Fault

/-!
File stores: what commands need of a file system. The same commands run on the files of a machine
and on a tree of files in memory.
-/

namespace SignalReplay

class FileStore (m : Type → Type) where
  /-- All bytes of a file. -/
  read : String → m (Except FileFault (List UInt8))
  /-- Put bytes into a file, which is replaced if it exists. Its directory must exist. If there is
  no room for all bytes, a beginning of them is left in the file. -/
  write : String → List UInt8 → m (Except FileFault Unit)
  /-- Make a directory and all directories around it, as far as they are missing. -/
  makeDirectories : String → m (Except FileFault Unit)

end SignalReplay
