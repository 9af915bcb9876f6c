import SignalReplay.Files.Path
import SignalReplay.Files.Store
import SignalReplay.Outcome.Lines
import SignalReplay.Replay.Document
import SignalReplay.Replay.Markdown

/-!
Artifacts: the files in which a replay is kept. A directory holds the document, the report in
Markdown and the outcomes; the document and the outcomes together give the replay back.
-/

namespace SignalReplay

inductive ArtifactError
  | directoryNotMade (path : String)
  | notWritten (path : String)
  | notFound (path : String)
  | notRead (path : String)
  | document (error : DocumentError)
  /-- A line of an outcome file, counted from 1, is no outcome. -/
  | badOutcome (path : String) (line : Nat)
deriving DecidableEq

def ArtifactError.message : ArtifactError → String
  | .directoryNotMade path => s!"failed to create artifact dir: {path}"
  | .notWritten path => s!"failed to write {path}"
  | .notFound path => s!"failed to open {path}"
  | .notRead path => s!"failed to read {path}"
  | .document error => error.message
  | .badOutcome path line => s!"{path}:{line}: invalid outcome"

namespace Artifacts

def documentName : String := "report.json"

def markdownName : String := "report.md"

def outcomesName : String := "outcomes.jsonl"

variable {m : Type → Type} [Monad m] [FileStore m]

def writeText (path text : String) : ExceptT ArtifactError m Unit := do
  match ← FileStore.write (m := m) path text.toUTF8.toList with
  | .ok () => return ()
  | .error _ => throw (.notWritten path)

/-- Write all artifacts of a replay into a directory, which is made if it is missing. The first
file that cannot be written ends it. -/
def save (replay : Replay) (directory : String) : ExceptT ArtifactError m Unit := do
  match ← FileStore.makeDirectories (m := m) directory with
  | .error _ => throw (.directoryNotMade directory)
  | .ok () =>
    writeText (Path.join directory documentName) replay.document
    writeText (Path.join directory markdownName) replay.markdown
    writeText (Path.join directory outcomesName) (OutcomeLines.write replay.outcomes)

def readOutcomes (path : String) : ExceptT ArtifactError m (List Outcome) := do
  match ← FileStore.read (m := m) path with
  | .error fault => throw (if fault.isAbsent then .notFound path else .notRead path)
  | .ok bytes =>
    match OutcomeLines.read bytes with
    | .ok outcomes => return outcomes
    | .error .notText => throw (.notRead path)
    | .error (.badLine line) => throw (.badOutcome path line)

def readDocument (path : String) : ExceptT ArtifactError m Replay := do
  match ← FileStore.read (m := m) path with
  | .error _ => throw (.notRead path)
  | .ok bytes =>
    match Utf8.decode bytes with
    | .error _ => throw (.notRead path)
    | .ok text => liftExcept ((Replay.ofDocument text).mapError ArtifactError.document)

def load (directory : String) : ExceptT ArtifactError m Replay := do
  let replay ← readDocument (Path.join directory documentName)
  let outcomes ← readOutcomes (Path.join directory outcomesName)
  return { replay with outcomes }

end Artifacts

end SignalReplay
