import SignalReplay.Proofs.Files.Tree
import SignalReplay.Proofs.Outcome.Lines
import SignalReplay.Proofs.Replay.Document
import SignalReplay.Replay.Artifacts

/-!
Artifacts read back. A replay that was saved is loaded exactly if its document can be read back, and
its outcomes are put together with the report again.
-/

namespace SignalReplay

namespace Replay

/-- What artifacts keep of a replay: the rounded report and the outcomes, both without the numbers
that may be missing and are not finite. -/
def stored (replay : Replay) : Replay :=
  let rounded := replay.rounded documentDecimals
  { rounded with
    report := rounded.report.stored, outcomes := replay.outcomes.map Outcome.stored }

end Replay

namespace Artifacts

variable {tree saved written : FileTree} {directory path text : String}

/-! ## Saving -/

theorem finish_writeText_eq_ok_iff :
    finish (writeText path text) tree = (.ok (), written) ↔
      tree.write path (Utf8.encode text) = (.ok (), written) := by
  rw [writeText, FileTree.finish_write_bind, ← Utf8.encode]
  rcases tree.write path (Utf8.encode text) with ⟨result, left⟩
  cases result with
  | ok _ =>
      change (Except.ok (), left) = (Except.ok (), written) ↔ _
      simp
  | error fault =>
      change (Except.error _, left) = (Except.ok (), written) ↔ _
      simp

theorem writes_of_save {replay : Replay}
    (ended : finish (save replay directory) tree = (.ok (), saved)) :
    ∃ made first second : FileTree,
      made.write (Path.join directory documentName) (Utf8.encode replay.document) = (.ok (), first) ∧
      first.write (Path.join directory markdownName) (Utf8.encode replay.markdown) = (.ok (), second) ∧
      second.write (Path.join directory outcomesName)
        (Utf8.encode (OutcomeLines.write replay.outcomes)) = (.ok (), saved) := by
  rw [save, FileTree.finish_makeDirectories_bind] at ended
  generalize tree.makeDirectories directory = ready at ended
  rcases ready with ⟨result, made⟩
  cases result with
  | error fault => cases ended
  | ok _ =>
      rcases finish_bind_eq_ok_iff.mp ended with ⟨_, first, document, later⟩
      rcases finish_bind_eq_ok_iff.mp later with ⟨_, second, markdown, outcomes⟩
      exact ⟨made, first, second, finish_writeText_eq_ok_iff.mp document,
        finish_writeText_eq_ok_iff.mp markdown, finish_writeText_eq_ok_iff.mp outcomes⟩

theorem isFileName_documentName : Path.IsFileName documentName := by
  constructor <;> decide

theorem isFileName_markdownName : Path.IsFileName markdownName := by
  constructor <;> decide

theorem isFileName_outcomesName : Path.IsFileName outcomesName := by
  constructor <;> decide

/-- The files from which a replay is loaded hold what was written to them last. -/
theorem held_of_save {replay : Replay}
    (ended : finish (save replay directory) tree = (.ok (), saved)) :
    saved.read (Path.join directory documentName) = .ok (Utf8.encode replay.document) ∧
      saved.read (Path.join directory outcomesName) =
        .ok (Utf8.encode (OutcomeLines.write replay.outcomes)) := by
  rcases writes_of_save ended with ⟨made, first, second, document, markdown, outcomes⟩
  have documentPut := FileTree.puts_of_write (isFileName_documentName.join_ne directory) document
  have markdownPut := FileTree.puts_of_write (isFileName_markdownName.join_ne directory) markdown
  have outcomesPut := FileTree.puts_of_write (isFileName_outcomesName.join_ne directory) outcomes
  -- The document is written first and must outlast the two writes after it.
  have afterMarkdown := (markdownPut.read_join isFileName_markdownName isFileName_documentName
    (by decide)).trans (documentPut.read (isFileName_documentName.join_ne directory))
  exact ⟨(outcomesPut.read_join isFileName_outcomesName isFileName_documentName
      (by decide)).trans afterMarkdown,
    outcomesPut.read (isFileName_outcomesName.join_ne directory)⟩

/-- A directory that is there or can be made, with a place for each artifact in it. -/
def HasRoom (tree : FileTree) (directory : String) : Prop :=
  ∃ made, tree.makeDirectories directory = (.ok (), made) ∧
    ∀ name ∈ [documentName, markdownName, outcomesName], ∀ content,
      ∃ written, made.write (Path.join directory name) content = (.ok (), written)

theorem exists_save (room : HasRoom tree directory) (replay : Replay) :
    ∃ saved, finish (save replay directory) tree = (.ok (), saved) := by
  rcases room with ⟨made, ready, writable⟩
  rcases writable documentName (by simp) (Utf8.encode replay.document) with ⟨first, document⟩
  rcases writable markdownName (by simp) (Utf8.encode replay.markdown) with ⟨_, markdown⟩
  rcases writable outcomesName (by simp) (Utf8.encode (OutcomeLines.write replay.outcomes)) with
    ⟨_, outcomes⟩
  -- The later artifacts can be written to begin with, and so after each one before them.
  rcases FileTree.exists_write_of_write (isFileName_documentName.join_ne directory)
    (isFileName_markdownName.join_ne directory) document markdown with ⟨second, markdown⟩
  rcases FileTree.exists_write_of_write (isFileName_documentName.join_ne directory)
    (isFileName_outcomesName.join_ne directory) document outcomes with ⟨_, outcomes⟩
  rcases FileTree.exists_write_of_write (isFileName_markdownName.join_ne directory)
    (isFileName_outcomesName.join_ne directory) markdown outcomes with ⟨saved, outcomes⟩
  refine ⟨saved, ?_⟩
  rw [save, FileTree.finish_makeDirectories_bind, ready]
  exact finish_bind_eq_ok_iff.mpr ⟨(), first, finish_writeText_eq_ok_iff.mpr document,
    finish_bind_eq_ok_iff.mpr ⟨(), second, finish_writeText_eq_ok_iff.mpr markdown,
      finish_writeText_eq_ok_iff.mpr outcomes⟩⟩

/-- Where nothing stands in the way of writing, room is found by writing nothing to each of the
places. -/
theorem hasRoom_of_isOk (clear : tree.obstacles = [])
    (ready : (tree.makeDirectories directory).1.isOk = true)
    (possible : ∀ name ∈ [documentName, markdownName, outcomesName],
      ((tree.makeDirectories directory).2.write (Path.join directory name) []).1.isOk = true) :
    HasRoom tree directory := by
  rcases exists_eq_ok ready with ⟨_, made⟩
  have stillClear := (FileTree.obstacles_makeDirectories tree directory).trans clear
  exact ⟨(tree.makeDirectories directory).2, Prod.ext made rfl,
    fun name member => FileTree.exists_write stillClear (possible name member)⟩

/-! ## Loading -/

theorem finish_readDocument (held : tree.read path = .ok (Utf8.encode text)) :
    finish (readDocument path) tree =
      ((Replay.ofDocument text).mapError ArtifactError.document, tree) := by
  rw [readDocument, FileTree.finish_read_bind, held]
  dsimp only
  rw [Utf8.decode_encode]
  exact finish_liftExcept _ tree

theorem finish_load {replay : Replay} (current : replay.version ≤ Replay.currentVersion)
    (fits : ∀ count ∈ replay.counts, count < Json.unsignedBound)
    (documentHeld : saved.read (Path.join directory documentName) =
      .ok (Utf8.encode replay.document))
    (outcomesHeld : saved.read (Path.join directory outcomesName) =
      .ok (Utf8.encode (OutcomeLines.write replay.outcomes))) :
    finish (load directory) saved =
      (if ∀ figure ∈ (replay.rounded Replay.documentDecimals).report.requiredFigures,
          figure.isFinite = true then .ok replay.stored
        else .error (.document .malformed), saved) := by
  have outcomes : finish (readOutcomes (Path.join directory outcomesName)) saved =
      (.ok (replay.outcomes.map Outcome.stored), saved) :=
    OutcomeLines.readOutcomes_eq outcomesHeld
  rw [load, finish_bind, finish_readDocument documentHeld,
    Replay.ofDocument_document current fits]
  by_cases finite : ∀ figure ∈ (replay.rounded Replay.documentDecimals).report.requiredFigures,
      figure.isFinite = true
  · rw [if_pos finite, if_pos finite]
    dsimp only [Except.mapError]
    rw [finish_bind, outcomes]
    rfl
  · rw [if_neg finite, if_neg finite]
    rfl

/-- A replay that was saved is loaded exactly if all the figures that its document must give are
finite once they are rounded, and what is loaded is what artifacts keep of the replay. -/
theorem load_of_save {replay : Replay} (current : replay.version ≤ Replay.currentVersion)
    (fits : ∀ count ∈ replay.counts, count < Json.unsignedBound)
    (ended : finish (save replay directory) tree = (.ok (), saved)) :
    ∃ result, finish (load directory) saved = (result, saved) ∧
      ((∃ loaded, result = .ok loaded) ↔
        ∀ figure ∈ (replay.rounded Replay.documentDecimals).report.requiredFigures,
          figure.isFinite = true) ∧
      ∀ loaded, result = .ok loaded → loaded = replay.stored := by
  rcases held_of_save ended with ⟨documentHeld, outcomesHeld⟩
  refine ⟨_, finish_load current fits documentHeld outcomesHeld, ?_⟩
  by_cases finite : ∀ figure ∈ (replay.rounded Replay.documentDecimals).report.requiredFigures,
      figure.isFinite = true
  · rw [if_pos finite]
    exact ⟨⟨fun _ => finite, fun _ => ⟨_, rfl⟩⟩, fun loaded equal => (Except.ok.inj equal).symm⟩
  · rw [if_neg finite]
    constructor
    · constructor
      · rintro ⟨loaded, equal⟩
        cases equal
      · exact fun holds => absurd holds finite
    · intro loaded equal
      cases equal

def sampleReplay : Replay :=
  let outcome : Outcome := ⟨"a", .loss, some (.ofFloat (-1.00004)), some (1.0 / 0.0), some 0.0,
    some 99.0, none⟩
  { version := Replay.currentVersion
    fingerprint := "00"
    tieBreak := .loss
    candleCount := 1
    signalCount := 1
    report := ⟨.ofOutcomes .standard [outcome], []⟩
    outcomes := [outcome] }

theorem load_of_save_sample :
    ∃ saved, finish (save sampleReplay "out") FileTree.empty = (.ok (), saved) ∧
      finish (load "out") saved = (.ok sampleReplay.stored, saved) ∧
      sampleReplay.report.overall.averageAdverse = some (1.0 / 0.0) ∧
      sampleReplay.stored.report.overall.averageAdverse = none := by
  have fits : ∀ count ∈ sampleReplay.counts, count < Json.unsignedBound := by decide +kernel
  have finite : ∀ figure ∈ (sampleReplay.rounded Replay.documentDecimals).report.requiredFigures,
      figure.isFinite = true := by decide +kernel
  rcases exists_eq_ok (show (finish (save sampleReplay "out") FileTree.empty).1.isOk = true by
    decide +kernel) with ⟨_, succeeded⟩
  have ended : finish (save sampleReplay "out") FileTree.empty =
      (.ok (), (finish (save sampleReplay "out") FileTree.empty).2) := Prod.ext succeeded rfl
  rcases load_of_save (Nat.le_refl _) fits ended with ⟨result, ran, succeeds, same⟩
  rcases succeeds.mpr finite with ⟨loaded, equal⟩
  rw [equal, same loaded equal] at ran
  exact ⟨_, ended, ran, by decide +kernel, by decide +kernel⟩

end Artifacts

end SignalReplay
