import SignalReplay.Proofs.Files.Directories
import SignalReplay.Proofs.Replay.Artifacts

/-!
Saves that fail. A save ends at the first file that cannot be written and takes nothing back. A write
that is refused leaves its file as it was; one that breaks off leaves a beginning of the content. As
long as the document is untouched, what can be loaded is as before; a document that is cut off cannot
be loaded; and after it has been written, it stands beside the outcomes that were there or beside a
beginning of its own.
-/

namespace SignalReplay

namespace Artifacts

variable {replay : Replay} {tree other made after : FileTree} {directory path text : String}
  {error : ArtifactError}

/-! ## Ways to fail -/

inductive SaveFails (replay : Replay) (directory : String) (tree : FileTree) :
    ArtifactError → FileTree → Prop
  | directory {made : FileTree} {fault : FileFault}
    (refused : tree.makeDirectories directory = (.error fault, made)) :
    SaveFails replay directory tree (.directoryNotMade directory) made
  | document {made after : FileTree} {fault : FileFault}
    (ready : tree.makeDirectories directory = (.ok (), made))
    (failed : made.write (Path.join directory documentName) (Utf8.encode replay.document) =
      (.error fault, after)) :
    SaveFails replay directory tree (.notWritten (Path.join directory documentName)) after
  | markdown {made first after : FileTree} {fault : FileFault}
    (ready : tree.makeDirectories directory = (.ok (), made))
    (document : made.write (Path.join directory documentName) (Utf8.encode replay.document) =
      (.ok (), first))
    (failed : first.write (Path.join directory markdownName) (Utf8.encode replay.markdown) =
      (.error fault, after)) :
    SaveFails replay directory tree (.notWritten (Path.join directory markdownName)) after
  | outcomes {made first second after : FileTree} {fault : FileFault}
    (ready : tree.makeDirectories directory = (.ok (), made))
    (document : made.write (Path.join directory documentName) (Utf8.encode replay.document) =
      (.ok (), first))
    (markdown : first.write (Path.join directory markdownName) (Utf8.encode replay.markdown) =
      (.ok (), second))
    (failed : second.write (Path.join directory outcomesName)
      (Utf8.encode (OutcomeLines.write replay.outcomes)) = (.error fault, after)) :
    SaveFails replay directory tree (.notWritten (Path.join directory outcomesName)) after

theorem finish_writeText_eq_error_iff :
    finish (writeText path text) tree = (.error error, after) ↔
      (∃ fault, tree.write path (Utf8.encode text) = (.error fault, after)) ∧
        error = .notWritten path := by
  rw [writeText, FileTree.finish_write_bind, ← Utf8.encode]
  rcases tree.write path (Utf8.encode text) with ⟨result, left⟩
  cases result with
  | ok _ =>
      change (Except.ok (), left) = (Except.error error, after) ↔ _
      simp
  | error fault =>
      change (Except.error _, left) = (Except.error error, after) ↔ _
      simp [eq_comm, and_comm]

theorem saveFails_of_finish
    (failed : finish (save replay directory) tree = (.error error, after)) :
    SaveFails replay directory tree error after := by
  rw [save, FileTree.finish_makeDirectories_bind] at failed
  rcases ready : tree.makeDirectories directory with ⟨result, made⟩
  rw [ready] at failed
  cases result with
  | error fault =>
      cases failed
      exact .directory ready
  | ok _ =>
      rcases finish_bind_eq_error_iff.mp failed with ended | ⟨_, first, document, later⟩
      · rcases finish_writeText_eq_error_iff.mp ended with ⟨⟨_, broken⟩, rfl⟩
        exact .document ready broken
      have document := finish_writeText_eq_ok_iff.mp document
      rcases finish_bind_eq_error_iff.mp later with ended | ⟨_, second, markdown, last⟩
      · rcases finish_writeText_eq_error_iff.mp ended with ⟨⟨_, broken⟩, rfl⟩
        exact .markdown ready document broken
      have markdown := finish_writeText_eq_ok_iff.mp markdown
      rcases finish_writeText_eq_error_iff.mp last with ⟨⟨_, broken⟩, rfl⟩
      exact .outcomes ready document markdown broken

/-! ## What is loaded afterwards -/

def outcomesIn (tree : FileTree) (directory : String) : Except ArtifactError (List Outcome) :=
  (finish (readOutcomes (Path.join directory outcomesName)) tree).1

/-- The document of a replay, put together with outcomes from elsewhere. -/
def recombined (replay : Replay) (outcomes : Except ArtifactError (List Outcome)) :
    Except ArtifactError Replay := do
  let report ← (Replay.ofDocument replay.document).mapError ArtifactError.document
  return { report with outcomes := ← outcomes }

theorem outcomesIn_congr (same : tree.read (Path.join directory outcomesName) =
      other.read (Path.join directory outcomesName)) :
    outcomesIn tree directory = outcomesIn other directory := by
  rw [outcomesIn, outcomesIn, readOutcomes, FileTree.finish_read_bind, FileTree.finish_read_bind,
    same]
  cases other.read (Path.join directory outcomesName) with
  | error fault => rfl
  | ok bytes =>
      dsimp only
      cases OutcomeLines.read bytes with
      | ok outcomes => rfl
      | error error => cases error <;> rfl

theorem outcomesIn_of_read {bytes : List UInt8}
    (held : tree.read (Path.join directory outcomesName) = .ok bytes) :
    (∀ outcomes, OutcomeLines.read bytes = .ok outcomes →
        outcomesIn tree directory = .ok outcomes) ∧
      ∀ fault, OutcomeLines.read bytes = .error fault →
        ∃ cause, outcomesIn tree directory = .error cause := by
  rw [outcomesIn, readOutcomes, FileTree.finish_read_bind, held]
  dsimp only
  cases OutcomeLines.read bytes with
  | ok outcomes =>
      refine ⟨fun _ read => congrArg Except.ok (Except.ok.inj read), fun _ unread => ?_⟩
      cases unread
  | error fault =>
      refine ⟨fun _ read => ?_, fun _ _ => ?_⟩
      · cases read
      · cases fault <;> exact ⟨_, rfl⟩

theorem exists_recombined_error (replay : Replay) (cause : ArtifactError) :
    ∃ error, recombined replay (.error cause) = .error error := by
  rw [recombined]
  cases (Replay.ofDocument replay.document).mapError ArtifactError.document <;> exact ⟨_, rfl⟩

theorem load_of_unread {fault : FileFault}
    (unread : tree.read (Path.join directory documentName) = .error fault) :
    (finish (load directory) tree).1 = .error (.notRead (Path.join directory documentName)) := by
  rw [load, finish_bind, readDocument, FileTree.finish_read_bind, unread]
  rfl

theorem load_of_absent (nonempty : directory ≠ "")
    (absent : tree.isDirectory directory = false) :
    (finish (load directory) tree).1 = .error (.notRead (Path.join directory documentName)) := by
  rcases FileTree.exists_read_eq_error isFileName_documentName nonempty absent with ⟨_, unread⟩
  exact load_of_unread unread

theorem load_of_held (held : tree.read (Path.join directory documentName) =
      .ok (Utf8.encode replay.document)) :
    (finish (load directory) tree).1 = recombined replay (outcomesIn tree directory) := by
  rw [load, finish_bind, finish_readDocument held, recombined, outcomesIn]
  cases (Replay.ofDocument replay.document).mapError ArtifactError.document with
  | error error => rfl
  | ok report =>
      dsimp only
      rw [finish_bind]
      rcases finish (readOutcomes (Path.join directory outcomesName)) tree with ⟨result, last⟩
      cases result <;> rfl

/-- A document stands beside the outcomes that another tree holds. -/
theorem load_eq_recombined
    (held : tree.read (Path.join directory documentName) = .ok (Utf8.encode replay.document))
    (same : tree.read (Path.join directory outcomesName) =
      other.read (Path.join directory outcomesName)) :
    (finish (load directory) tree).1 = recombined replay (outcomesIn other directory) := by
  rw [load_of_held held, outcomesIn_congr same]

theorem exists_load_error_of_cut {part : List UInt8}
    (isPrefix : part <+: Utf8.encode replay.document) (proper : part ≠ Utf8.encode replay.document)
    (held : tree.read (Path.join directory documentName) = .ok part) :
    ∃ cause, (finish (load directory) tree).1 = .error cause := by
  rw [load, finish_bind, readDocument, FileTree.finish_read_bind, held]
  dsimp only
  cases decoded : Utf8.decode part with
  | error fault => exact ⟨_, rfl⟩
  | ok text =>
      rw [Utf8.decode_eq_ok_iff] at decoded
      subst decoded
      have cut : Json.IsCutObject text replay.document :=
        Json.Value.isCutObject_pretty _ (Utf8.isPrefix_of_encode isPrefix)
          fun equal => proper (congrArg Utf8.encode equal)
      have unread : Replay.ofDocument text = .error .malformed := by
        rw [Replay.ofDocument,
          Json.Node.ofText?_eq_none_of_isCutObject cut (Json.Value.ofText?_pretty _)]
        rfl
      dsimp only
      rw [unread]
      exact ⟨_, rfl⟩

/-- The directory that a save finds, or makes where it is missing. -/
structure Prepares (tree : FileTree) (directory : String) (made : FileTree) : Prop where
  ready : tree.makeDirectories directory = (.ok (), made)
  asFound : tree.isDirectory directory = true → made = tree

theorem prepares_of_makeDirectories (ready : tree.makeDirectories directory = (.ok (), made)) :
    Prepares tree directory made := by
  refine ⟨ready, fun there => ?_⟩
  rcases FileTree.absent_or_eq_of_makeDirectories ready with ⟨-, absent⟩ | ⟨-, same⟩
  · cases absent.symm.trans there
  · exact same

/-- What can be loaded after a failed save, by the write that failed and how it did. -/
inductive Leaves (replay : Replay) (directory : String) (tree after : FileTree)
    (error : ArtifactError) : Prop
  | directory (cause : error = .directoryNotMade directory)
    (same : (finish (load directory) after).1 = (finish (load directory) tree).1)
  /-- The write of the document was refused. Where the way to the directory leads through one that had
  to be made, the directory may hold files although it was not found before. -/
  | documentRefused {made : FileTree}
    (cause : error = .notWritten (Path.join directory documentName))
    (prepared : Prepares tree directory made) (unchanged : after = made)
  | documentCut {part : List UInt8}
    (cause : error = .notWritten (Path.join directory documentName))
    (held : after.read (Path.join directory documentName) = .ok part)
    (isPrefix : part <+: Utf8.encode replay.document) (proper : part ≠ Utf8.encode replay.document)
    (lost : ∃ cause, (finish (load directory) after).1 = .error cause)
  /-- The write of the Markdown failed in whatever way, or that of the outcomes was refused. -/
  | mixed {made : FileTree}
    (cause : error = .notWritten (Path.join directory markdownName) ∨
      error = .notWritten (Path.join directory outcomesName))
    (prepared : Prepares tree directory made)
    (recombines : (finish (load directory) after).1 =
      recombined replay (outcomesIn made directory))
  | outcomesCut {part : List UInt8}
    (cause : error = .notWritten (Path.join directory outcomesName))
    (held : after.read (Path.join directory outcomesName) = .ok part)
    (isPrefix : part <+: Utf8.encode (OutcomeLines.write replay.outcomes))
    (proper : part ≠ Utf8.encode (OutcomeLines.write replay.outcomes))
    (shortened : (∃ front, front <+: replay.outcomes ∧ (finish (load directory) after).1 =
        recombined replay (.ok (front.map Outcome.stored))) ∨
      ∃ cause, (finish (load directory) after).1 = .error cause)

theorem load_after_document {first last : FileTree}
    (document : FileTree.Puts made (Path.join directory documentName)
      (Utf8.encode replay.document) first)
    (markdown : last = first ∨
      ∃ content, FileTree.Puts first (Path.join directory markdownName) content last) :
    last.read (Path.join directory documentName) = .ok (Utf8.encode replay.document) ∧
      last.read (Path.join directory outcomesName) =
        made.read (Path.join directory outcomesName) := by
  have held := document.read (isFileName_documentName.join_ne directory)
  have same := document.read_join isFileName_documentName isFileName_outcomesName (by decide)
  rcases markdown with rfl | ⟨_, put⟩
  · exact ⟨held, same⟩
  · exact ⟨(put.read_join isFileName_markdownName isFileName_documentName (by decide)).trans held,
      (put.read_join isFileName_markdownName isFileName_outcomesName (by decide)).trans same⟩

/-- What is left to be loaded depends on the write that failed. While the document is untouched it is
what was there; a document that is cut off cannot be loaded; behind the document, the outcomes that
were in the directory are loaded with it, or a beginning of those that were to be saved. -/
theorem load_of_failed_save
    (failed : finish (save replay directory) tree = (.error error, after)) :
    Leaves replay directory tree after error := by
  have documentOrdinary := isFileName_documentName.join_ne directory
  have markdownOrdinary := isFileName_markdownName.join_ne directory
  have outcomesOrdinary := isFileName_outcomesName.join_ne directory
  cases saveFails_of_finish failed with
  | directory refused =>
      refine .directory rfl ?_
      rcases FileTree.absent_or_eq_of_makeDirectories refused with
        ⟨nonempty, absentBefore⟩ | ⟨impossible, -⟩
      · have absent := FileTree.isDirectory_of_makeDirectories_error refused
        rw [load_of_absent nonempty absent, load_of_absent nonempty absentBefore]
      · cases impossible
  | document ready broken =>
      have prepared := prepares_of_makeDirectories ready
      rcases FileTree.eq_or_puts_of_write_error documentOrdinary broken with
        rfl | ⟨part, isPrefix, proper, put⟩
      · exact .documentRefused rfl prepared rfl
      · have held := put.read documentOrdinary
        exact .documentCut rfl held isPrefix proper (exists_load_error_of_cut isPrefix proper held)
  | markdown ready document broken =>
      have prepared := prepares_of_makeDirectories ready
      have documentPut := FileTree.puts_of_write documentOrdinary document
      rcases FileTree.eq_or_puts_of_write_error markdownOrdinary broken with
        rfl | ⟨part, -, -, put⟩
      · rcases load_after_document documentPut (.inl rfl) with ⟨held, same⟩
        exact .mixed (.inl rfl) prepared (load_eq_recombined held same)
      · rcases load_after_document documentPut (.inr ⟨part, put⟩) with ⟨held, same⟩
        exact .mixed (.inl rfl) prepared (load_eq_recombined held same)
  | outcomes ready document markdown broken =>
      have prepared := prepares_of_makeDirectories ready
      have documentPut := FileTree.puts_of_write documentOrdinary document
      have markdownPut := FileTree.puts_of_write markdownOrdinary markdown
      rcases load_after_document documentPut (.inr ⟨_, markdownPut⟩) with ⟨held, same⟩
      rcases FileTree.eq_or_puts_of_write_error outcomesOrdinary broken with
        rfl | ⟨part, isPrefix, proper, put⟩
      · exact .mixed (.inr rfl) prepared (load_eq_recombined held same)
      · have partHeld := put.read outcomesOrdinary
        have documentHeld := (put.read_join isFileName_outcomesName isFileName_documentName
          (by decide)).trans held
        refine .outcomesCut rfl partHeld isPrefix proper ?_
        rw [load_of_held documentHeld]
        rcases OutcomeLines.read_of_isPrefix isPrefix with ⟨fault, unread⟩ | ⟨front, inFront, read⟩
        · rcases (outcomesIn_of_read partHeld).2 fault unread with ⟨cause, failed⟩
          rw [failed]
          exact .inr (exists_recombined_error replay cause)
        · rw [(outcomesIn_of_read partHeld).1 _ read]
          exact .inl ⟨front, inFront, rfl⟩

def obstructed (replay : Replay) (name : String) : FileTree where
  entries := [(["out"], .directory), (["out", name], .directory),
    (["out", documentName], .file (Utf8.encode replay.document)),
    (["out", outcomesName], .file (Utf8.encode (OutcomeLines.write replay.outcomes)))]

/-- A directory that holds a replay, with room for the first bytes of one of its files. -/
def confined (replay : Replay) (name : String) (bytes : Nat) : FileTree where
  entries := [(["out"], .directory),
    (["out", documentName], .file (Utf8.encode replay.document)),
    (["out", outcomesName], .file (Utf8.encode (OutcomeLines.write replay.outcomes)))]
  obstacles := [(["out", name], .limit bytes)]

def idleReplay : Replay :=
  { sampleReplay with
    signalCount := 0, report := ⟨.ofOutcomes .standard [], []⟩, outcomes := [] }

/-- With a directory in the way of the document nothing changes; with one in the way of the Markdown
the outcomes that were there are loaded with the new document; and a document that is cut off after
two bytes is lost. -/
theorem load_of_failed_save_obstructed :
    (∃ after, finish (save idleReplay "out") (obstructed sampleReplay documentName) =
        (.error (.notWritten "out/report.json"), after) ∧
      (finish (load "out") after).1 =
        (finish (load "out") (obstructed sampleReplay documentName)).1) ∧
    (∃ after, finish (save idleReplay "out") (obstructed sampleReplay markdownName) =
        (.error (.notWritten "out/report.md"), after) ∧
      (finish (load "out") after).1 =
        recombined idleReplay (outcomesIn (obstructed sampleReplay markdownName) "out")) ∧
    ∃ after, finish (save idleReplay "out") (confined sampleReplay documentName 2) =
        (.error (.notWritten "out/report.json"), after) ∧
      after.read "out/report.json" = .ok (Utf8.encode "\x7b\n") ∧
      ∃ cause, (finish (load "out") after).1 = .error cause := by
  refine ⟨?_, ?_, ?_⟩
  · have failed : finish (save idleReplay "out") (obstructed sampleReplay documentName) =
        (.error (.notWritten "out/report.json"), obstructed sampleReplay documentName) := by rfl
    exact ⟨_, failed, rfl⟩
  · have failed : finish (save idleReplay "out") (obstructed sampleReplay markdownName) =
        (.error (.notWritten "out/report.md"), (obstructed sampleReplay markdownName).put
          ["out", documentName] (.file (Utf8.encode idleReplay.document))) := by rfl
    have there : (obstructed sampleReplay markdownName).isDirectory "out" = true := by rfl
    refine ⟨_, failed, ?_⟩
    cases load_of_failed_save failed with
    | mixed _ prepared recombines => rwa [prepared.asFound there] at recombines
    | directory cause | documentRefused cause | documentCut cause | outcomesCut cause =>
        exact absurd cause (by decide)
  · generalize ran : finish (save idleReplay "out") (confined sampleReplay documentName 2) = ended
    have stopped : ended.1 = .error (.notWritten "out/report.json") := by
      rw [← ran]
      decide +kernel
    have held : (ended.2.read "out/report.json").toOption = some (Utf8.encode "\x7b\n") := by
      rw [← ran]
      decide +kernel
    have failed : ended = (.error (.notWritten "out/report.json"), ended.2) :=
      Prod.ext stopped rfl
    have held := toOption_eq_some_iff.mp held
    refine ⟨ended.2, failed, held, ?_⟩
    cases load_of_failed_save (ran.trans failed) with
    | documentCut _ _ _ _ lost => exact lost
    | documentRefused _ prepared unchanged =>
        rw [unchanged, prepared.asFound rfl] at held
        have other : ((confined sampleReplay documentName 2).read "out/report.json").toOption ≠
            some (Utf8.encode "\x7b\n") := by decide +kernel
        exact absurd (toOption_eq_some_iff.mpr held) other
    | directory cause | mixed cause | outcomesCut cause => exact absurd cause (by decide)

/-! ## A mixed directory -/

def Undisturbed (replay : Replay) (directory : String) (tree : FileTree) : Prop :=
  ∀ error after, finish (save replay directory) tree = (.error error, after) →
    (finish (load directory) after).1 = (finish (load directory) tree).1

theorem outcomesIn_of_held {outcomes : List Outcome}
    (held : tree.read (Path.join directory outcomesName) =
      .ok (Utf8.encode (OutcomeLines.write outcomes))) :
    outcomesIn tree directory = .ok (outcomes.map Outcome.stored) :=
  congrArg Prod.fst (OutcomeLines.readOutcomes_eq held)

theorem recombined_eq {outcomes : List Outcome} (current : replay.version ≤ Replay.currentVersion)
    (fits : ∀ count ∈ replay.counts, count < Json.unsignedBound)
    (finite : ∀ figure ∈ (replay.rounded Replay.documentDecimals).report.requiredFigures,
      figure.isFinite = true) :
    recombined replay (.ok outcomes) = .ok { replay.stored with outcomes } := by
  rw [recombined, Replay.ofDocument_document current fits, if_pos finite]
  rfl

/-- Where a directory is in the way of the Markdown, the save of a replay without signals fails, and
its report is loaded with the outcome of the replay that was there. -/
theorem not_undisturbed_by_late_failure :
    let tree := obstructed sampleReplay markdownName
    let after := tree.put ["out", documentName] (.file (Utf8.encode idleReplay.document))
    finish (save idleReplay "out") tree = (.error (.notWritten "out/report.md"), after) ∧
      (finish (load "out") tree).1 = .ok sampleReplay.stored ∧
      (finish (load "out") after).1 =
        .ok { idleReplay.stored with outcomes := sampleReplay.stored.outcomes } ∧
      ¬ Undisturbed idleReplay "out" tree := by
  intro tree after
  have failed : finish (save idleReplay "out") tree =
      (.error (.notWritten "out/report.md"), after) := by rfl
  have before : (finish (load "out") tree).1 = .ok sampleReplay.stored := by
    have document : tree.read "out/report.json" = .ok (Utf8.encode sampleReplay.document) := by rfl
    have outcomes : tree.read "out/outcomes.jsonl" =
      .ok (Utf8.encode (OutcomeLines.write sampleReplay.outcomes)) := by rfl
    rw [load_of_held document, outcomesIn_of_held outcomes,
      recombined_eq (by decide) (by decide +kernel) (by decide +kernel)]
    rfl
  have mixed : (finish (load "out") after).1 =
      .ok { idleReplay.stored with outcomes := sampleReplay.stored.outcomes } := by
    have document : after.read "out/report.json" = .ok (Utf8.encode idleReplay.document) := by rfl
    have outcomes : after.read "out/outcomes.jsonl" =
      .ok (Utf8.encode (OutcomeLines.write sampleReplay.outcomes)) := by rfl
    rw [load_of_held document, outcomesIn_of_held outcomes,
      recombined_eq (by decide) (by decide +kernel) (by decide +kernel)]
    rfl
  refine ⟨failed, before, mixed, fun undisturbed => ?_⟩
  have same := undisturbed _ _ failed
  rw [before, mixed] at same
  have counts := congrArg Replay.signalCount (Except.ok.inj same)
  cases counts

end Artifacts

end SignalReplay
