import SignalReplay.Command.Run
import SignalReplay.Proofs.Files.Loading
import SignalReplay.Proofs.Replay.Artifacts
import SignalReplay.Proofs.Replay.Run

/-!
The two commands compared. Asked for the same replay, they stop at the same cause or compute the same
outcomes. After that only the file of one and the pool of threads of the other can be in the way, and
where neither is, both give these outcomes, byte by byte.
-/

namespace SignalReplay

/-! ## What the commands compute -/

variable {tree : FileTree} {configuration : Configuration}

theorem TagOptions.finish_outcomes (options : TagOptions) (tree : FileTree) :
    finish options.outcomes tree =
      (do
        let tieBreak ← (TieBreak.read options.tieBreak).mapError CommandError.tieBreak
        let series ← (tree.seriesAt options.pattern options.candles).mapError
          (CommandError.candles options.candles)
        let found ← (tree.signalsAt options.pattern options.signals).mapError
          (CommandError.signals options.signals)
        return tagAll found series tieBreak, tree) := by
  rw [outcomes, finish_bind, finish_liftExcept]
  cases (TieBreak.read options.tieBreak).mapError CommandError.tieBreak with
  | error error => rfl
  | ok tieBreak =>
      dsimp only
      rw [finish_bind, finish_adapt, finish_loadCandles]
      cases tree.seriesAt options.pattern options.candles with
      | error error => rfl
      | ok series =>
          dsimp only [Except.mapError]
          rw [finish_bind, finish_adapt, finish_loadSignals]
          cases tree.signalsAt options.pattern options.signals <;> rfl

/-- The configuration that is left once the options have gone before it. -/
def ReportOptions.over (options : ReportOptions) (configuration : Configuration) :
    Configuration :=
  { configuration with
    data.candles := options.candles <|> configuration.data.candles
    data.signals := options.signals <|> configuration.data.signals
    report.directory := options.directory.getD configuration.report.directory }

theorem ReportOptions.finish_completed (options : ReportOptions)
    (configured : tree.IsConfigured options.configuration configuration) :
    finish options.completed tree =
      (((options.over configuration).check.mapError CommandError.configuration).map fun _ =>
        options.over configuration, tree) := by
  have checked : (options.over configuration).check = configuration.check := rfl
  rw [completed, checked]
  generalize options.configuration = given at configured ⊢
  cases configured with
  | standard => rfl
  | file held parsed =>
      dsimp only
      rw [finish_bind, finish_adapt, finish_loadConfiguration held parsed]
      cases configuration.check <;> rfl

theorem Configuration.check_eq {edges : HistogramEdges} (valid : configuration.edges = .ok edges) :
    configuration.check = ((TieBreak.read configuration.tagging.tieBreak).mapError
      ConfigurationError.tieBreak).map fun _ => () := by
  unfold check
  rw [valid, tieBreak]
  cases TieBreak.read configuration.tagging.tieBreak <;> rfl

/-! ## Results compared -/

variable (tree : FileTree) (options : TagOptions)

/-- The first cause that stops both commands, with the error of each. -/
inductive FirstCause : CommandError → CommandError → Prop
  | tieBreak {error : TieBreakError} (refused : TieBreak.read options.tieBreak = .error error) :
      FirstCause (.tieBreak error) (.configuration (.tieBreak error))
  | candles {tieBreak : TieBreak} {error : LoadError}
      (accepted : TieBreak.read options.tieBreak = .ok tieBreak)
      (failed : tree.seriesAt options.pattern options.candles = .error error) :
      FirstCause (.candles options.candles error) (.replay (.data error))
  | signals {tieBreak : TieBreak} {series : CandleSeries} {error : LoadError}
      (accepted : TieBreak.read options.tieBreak = .ok tieBreak)
      (loaded : tree.seriesAt options.pattern options.candles = .ok series)
      (failed : tree.signalsAt options.pattern options.signals = .error error) :
      FirstCause (.signals options.signals error) (.replay (.data error))

/-- Options of the two commands that ask for the same replay, and a configuration by which the
second one can be run. -/
structure AsksForSame (options : TagOptions) (report : ReportOptions)
    (configuration : Configuration) : Prop where
  configured : tree.IsConfigured report.configuration configuration
  candles : (report.candles <|> configuration.data.candles) = some options.candles
  signals : (report.signals <|> configuration.data.signals) = some options.signals
  pattern : configuration.data.pattern = options.pattern
  tieBreak : configuration.tagging.tieBreak = options.tieBreak
  edges : ∃ edges, configuration.edges = .ok edges

variable {tree options} {report : ReportOptions} {pools : ThreadPools}

namespace AsksForSame

theorem inputPaths (same : AsksForSame tree options report configuration) :
    (report.over configuration).inputPaths = .ok (options.candles, options.signals) := by
  rw [ReportOptions.over, Configuration.inputPaths, same.candles, same.signals]

theorem tieBreak_over (same : AsksForSame tree options report configuration) :
    (report.over configuration).tieBreak =
      (TieBreak.read options.tieBreak).mapError ConfigurationError.tieBreak := by
  rw [← same.tieBreak]
  rfl

theorem check_over (same : AsksForSame tree options report configuration) :
    (report.over configuration).check = ((TieBreak.read options.tieBreak).mapError
      ConfigurationError.tieBreak).map fun _ => () := by
  rcases same.edges with ⟨edges, valid⟩
  rw [← same.tieBreak]
  exact Configuration.check_eq valid

end AsksForSame

/-- Up to what the commands do with the outcomes, both stop at the same cause or have the same
outcomes, unless the pool of threads is refused. -/
theorem cause_or_outcomes (same : AsksForSame tree options report configuration)
    (pools : ThreadPools) :
    (∃ tagged reported, FirstCause tree options tagged reported ∧
      finish options.outcomes tree = (.error tagged, tree) ∧
      finish (report.run pools) tree = (.error reported, tree)) ∨
    ∃ tieBreak series found replay, TieBreak.read options.tieBreak = .ok tieBreak ∧
      tree.seriesAt options.pattern options.candles = .ok series ∧
      tree.signalsAt options.pattern options.signals = .ok found ∧
      replay.outcomes = tagAll found series tieBreak ∧
      finish options.outcomes tree = (.ok replay.outcomes, tree) ∧
      (finish (report.run pools) tree =
          finish (do
            (Artifacts.save replay (report.over configuration).report.directory).adapt
              CommandError.artifacts
            return Summary.text replay (report.over configuration).report.directory) tree ∨
        ∃ fault, configuration.tagging.threads ≠ 0 ∧
          pools.build configuration.tagging.threads = .error fault ∧
          finish (report.run pools) tree = (.error (.replay (.threadPool fault)), tree)) := by
  have completed := report.finish_completed same.configured
  have checked := same.check_over
  rw [checked] at completed
  rw [ReportOptions.run, finish_bind, completed, options.finish_outcomes]
  cases accepted : TieBreak.read options.tieBreak with
  | error error => exact .inl ⟨_, _, .tieBreak accepted, rfl, rfl⟩
  | ok tieBreak =>
      have valid : (report.over configuration).check = .ok () := by
        rw [checked, accepted]
        rfl
      have tieBreakRead : (report.over configuration).tieBreak = .ok tieBreak := by
        rw [same.tieBreak_over, accepted]
        rfl
      have pattern : (report.over configuration).data.pattern = options.pattern := same.pattern
      dsimp only [Except.mapError, Except.map]
      rw [finish_bind, finish_adapt, Replay.finish_ofFiles same.inputPaths, valid, pattern]
      cases loaded : tree.seriesAt options.pattern options.candles with
      | error error => exact .inl ⟨_, _, .candles accepted loaded, rfl, rfl⟩
      | ok series =>
          cases found : tree.signalsAt options.pattern options.signals with
          | error error => exact .inl ⟨_, _, .signals accepted loaded found, rfl, rfl⟩
          | ok signals =>
              rcases same.edges with ⟨edges, edgesRead⟩
              refine .inr ⟨tieBreak, series, signals, .ofData series signals tieBreak edges,
                rfl, rfl, rfl, rfl, rfl, ?_⟩
              dsimp only [Except.mapError, bind, Except.bind]
              rcases Replay.run_eq_or_refused tieBreakRead edgesRead series signals with
                ran | ⟨fault, some, refused, failed⟩
              · exact .inl (by rw [ran])
              · exact .inr ⟨fault, some, refused, by rw [failed]⟩

/-! ## Ends of the commands -/

inductive Sends (tree : FileTree) : Option String → String → String → FileTree → Prop
  | printed {text : String} : Sends tree none text text tree
  | stored {path text : String} {written : FileTree}
      (wrote : tree.write path (Utf8.encode text) = (.ok (), written)) :
      Sends tree (some path) text "" written

/-- How the first command ends once its text is known: only a file that cannot be written makes it
fail. -/
inductive TagEnds (tree : FileTree) (out : Option String) (text : String) :
    Except CommandError String × FileTree → Prop
  | sent {printed : String} {written : FileTree} (sent : Sends tree out text printed written) :
      TagEnds tree out text (.ok printed, written)
  | notWritten {path : String} {fault : FileFault} {written : FileTree} (given : out = some path)
      (failed : tree.write path (Utf8.encode text) = (.error fault, written)) :
      TagEnds tree out text (.error (.notWritten path), written)

theorem TagOptions.tagEnds {outcomes : List Outcome}
    (ended : finish options.outcomes tree = (.ok outcomes, tree)) :
    TagEnds tree options.out (OutcomeLines.write outcomes) (finish options.run tree) := by
  rw [TagOptions.run, finish_bind, ended]
  cases options.out with
  | none => exact .sent .printed
  | some path =>
      dsimp only
      rw [FileTree.finish_write_bind]
      rcases wrote : tree.write path (Utf8.encode (OutcomeLines.write outcomes)) with
        ⟨result, written⟩
      cases result with
      | ok _ => exact .sent (.stored wrote)
      | error fault => exact .notWritten rfl wrote

/-- How the second command ends once the text of its outcomes is known: only a pool of threads that
is asked for and cannot be built makes it fail. -/
inductive ReportEnds (tree : FileTree) (pools : ThreadPools) (threads : Nat)
    (directory text : String) : Except CommandError String × FileTree → Prop
  | saved {summary : String} {saved : FileTree}
      (held : saved.read (Path.join directory Artifacts.outcomesName) = .ok (Utf8.encode text)) :
      ReportEnds tree pools threads directory text (.ok summary, saved)
  | refused {fault : PoolFault} (some : threads ≠ 0)
      (refused : pools.build threads = .error fault) :
      ReportEnds tree pools threads directory text (.error (.replay (.threadPool fault)), tree)

/-- How the commands end: both stop at one cause and leave the tree as it was, or each goes its way
with the same text of outcomes. -/
inductive Agree (tree : FileTree) (options : TagOptions) (pools : ThreadPools) (threads : Nat)
    (directory : String) :
    Except CommandError String × FileTree → Except CommandError String × FileTree → Prop
  | stopped {tagged reported : CommandError} (cause : FirstCause tree options tagged reported) :
      Agree tree options pools threads directory (.error tagged, tree) (.error reported, tree)
  | computed {tieBreak : TieBreak} {series : CandleSeries} {found : List Signal} {text : String}
      {tagEnd reportEnd : Except CommandError String × FileTree}
      (accepted : TieBreak.read options.tieBreak = .ok tieBreak)
      (candles : tree.seriesAt options.pattern options.candles = .ok series)
      (signals : tree.signalsAt options.pattern options.signals = .ok found)
      (outcomes : text = OutcomeLines.write (tagAll found series tieBreak))
      (tag : TagEnds tree options.out text tagEnd)
      (report : ReportEnds tree pools threads directory text reportEnd) :
      Agree tree options pools threads directory tagEnd reportEnd

theorem ReportOptions.reportEnds {replay : Replay}
    (room : Artifacts.HasRoom tree (report.over configuration).report.directory)
    (saving : finish (report.run pools) tree = finish (do
      (Artifacts.save replay (report.over configuration).report.directory).adapt
        CommandError.artifacts
      return Summary.text replay (report.over configuration).report.directory) tree)
    (threads : Nat) :
    ReportEnds tree pools threads (report.over configuration).report.directory
      (OutcomeLines.write replay.outcomes) (finish (report.run pools) tree) := by
  rcases Artifacts.exists_save room replay with ⟨saved, save⟩
  have adapted : finish ((Artifacts.save replay (report.over configuration).report.directory).adapt
      CommandError.artifacts) tree = (.ok (), saved) := by
    rw [finish_adapt, save]
    rfl
  rw [saving.trans (finish_bind_eq_ok_iff.mpr ⟨(), saved, adapted, rfl⟩)]
  exact .saved (Artifacts.held_of_save save).2

/-- Asked for the same replay and with room for its artifacts, the commands agree: both fail for the
same first cause, or both have the same outcomes. The first one then fails only if the file for them
cannot be written, and the second one only if the pool of threads that it is to use cannot be built.
What one of them sends is, byte by byte, what the other saves. -/
theorem Command.run_agrees (same : AsksForSame tree options report configuration)
    (room : Artifacts.HasRoom tree (report.directory.getD configuration.report.directory))
    (pools : ThreadPools) :
    Agree tree options pools configuration.tagging.threads
      (report.directory.getD configuration.report.directory)
      (finish (Command.run pools (.tag options)) tree)
      (finish (Command.run pools (.report report)) tree) := by
  rw [Command.run, Command.run]
  rcases cause_or_outcomes same pools with ⟨tagged, reported, cause, stopped, reportStopped⟩ |
    ⟨tieBreak, series, found, replay, accepted, candles, signals, outcomes, ended, goesOn⟩
  · rw [reportStopped, TagOptions.run, finish_bind, stopped]
    exact .stopped cause
  · refine .computed accepted candles signals (congrArg OutcomeLines.write outcomes)
      (TagOptions.tagEnds ended) ?_
    rcases goesOn with saving | ⟨fault, some, refused, failed⟩
    · exact ReportOptions.reportEnds room saving _
    · rw [failed]
      exact .refused some refused

/-! ## One replay -/

def sampleSettings : String :=
  "[tagging]\ntie_break = \"stop\"\nthreads = 64\n[report]\noutput_dir = \"out\"\n"

def sampleFiles : FileTree :=
  ((FileTree.empty.put ["candles.csv"] (.file (Utf8.encode ("timestamp,open,high,low,close\n" ++
      "2024-01-02 09:10:00,100,103,99.5,102\n2024-01-02 09:05:00,100,101,99.5,100\n")))).put
    ["signals.jsonl"] (.file (Utf8.encode ("\x7b\"timestamp\": \"2024-01-02 09:00:00\", " ++
      "\"direction\": \"long\", \"entry\": 100, \"sl\": 99, \"tp\": 102\x7d")))).put
    ["config.toml"] (.file (Utf8.encode sampleSettings))

def sampleTag (out : String) : TagOptions where
  candles := "candles.csv"
  signals := "signals.jsonl"
  tieBreak := "stop"
  out := some out

def sampleReport : ReportOptions where
  configuration := some "config.toml"
  candles := some "candles.csv"
  signals := some "signals.jsonl"

def sampleConfiguration : Configuration where
  tagging := { tieBreak := "stop", threads := 64 }
  report := { directory := "out" }

theorem asksForSame_sample (out : String) :
    AsksForSame sampleFiles (sampleTag out) sampleReport sampleConfiguration := by
  have place : sampleFiles.placeOf "config.toml" = .ok ["config.toml"] := by
    rw [← toOption_eq_some_iff]
    decide +kernel
  have held : sampleFiles.read "config.toml" = .ok (Utf8.encode sampleSettings) :=
    (FileTree.read_eq_ok_iff (by decide)).mpr
      ⟨_, place, FileTree.entry?_put_self (by decide) _ _⟩
  have parsed : (Toml.ofText? sampleSettings).bind Configuration.ofMembers? =
      some sampleConfiguration := by decide +kernel
  exact ⟨.file held parsed, rfl, rfl, rfl, rfl, .standard, rfl⟩

theorem hasRoom_sample : Artifacts.HasRoom sampleFiles "out" :=
  Artifacts.hasRoom_of_isOk rfl (by decide +kernel) (by decide +kernel)

theorem not_firstCause_sample (out : String) (tagged reported : CommandError) :
    ¬ FirstCause sampleFiles (sampleTag out) tagged reported := by
  have tieBreak : (TieBreak.read "stop").isOk = true := by decide
  have series : (sampleFiles.seriesAt Timestamp.standardPattern "candles.csv").isOk = true := by
    decide +kernel
  have found : (sampleFiles.signalsAt Timestamp.standardPattern "signals.jsonl").isOk = true := by
    decide +kernel
  have failed {ε α : Type} {result : Except ε α} {error : ε} (ok : result.isOk = true)
      (equal : result = .error error) : False := by
    rw [equal] at ok
    cases ok
  intro cause
  cases cause with
  | tieBreak refused => exact failed tieBreak refused
  | candles _ broken => exact failed series broken
  | signals _ _ broken => exact failed found broken

theorem exists_write_sample (content : List UInt8) :
    ∃ written, sampleFiles.write "outcomes.jsonl" content = (.ok (), written) :=
  FileTree.exists_write rfl (by decide +kernel : (sampleFiles.write "outcomes.jsonl" []).1.isOk =
    true) content

/-- Both commands succeed, and the file of one and the artifact of the other hold one text. -/
theorem Command.run_agrees_on_sample :
    AsksForSame sampleFiles (sampleTag "outcomes.jsonl") sampleReport sampleConfiguration ∧
      Artifacts.HasRoom sampleFiles "out" ∧
      ∃ text written summary saved,
        finish (Command.run .unlimited (.tag (sampleTag "outcomes.jsonl"))) sampleFiles =
          (.ok "", written) ∧
        finish (Command.run .unlimited (.report sampleReport)) sampleFiles = (.ok summary, saved) ∧
        written.read "outcomes.jsonl" = .ok (Utf8.encode text) ∧
        saved.read "out/outcomes.jsonl" = .ok (Utf8.encode text) := by
  have same := asksForSame_sample "outcomes.jsonl"
  refine ⟨same, hasRoom_sample, ?_⟩
  have agree := run_agrees same hasRoom_sample .unlimited
  generalize finish (Command.run .unlimited (.tag (sampleTag "outcomes.jsonl"))) sampleFiles =
    tagEnd at agree ⊢
  generalize finish (Command.run .unlimited (.report sampleReport)) sampleFiles =
    reportEnd at agree ⊢
  cases agree with
  | stopped cause => exact absurd cause (not_firstCause_sample _ _ _)
  | @computed _ _ _ text _ _ _ _ _ _ tag report =>
      cases report with
      | refused _ refused => cases refused
      | @saved summary saved held =>
          rcases exists_write_sample (Utf8.encode text) with ⟨written, wrote⟩
          generalize given : (sampleTag "outcomes.jsonl").out = out at tag
          cases given
          cases tag with
          | notWritten given failed =>
              cases given
              cases wrote.symm.trans failed
          | sent sent =>
              cases sent with
              | stored stored =>
                  exact ⟨text, _, summary, saved, rfl, rfl,
                    (FileTree.puts_of_write (by decide) stored).read (by decide), held⟩

def SucceedAlike (pools : ThreadPools) (tree : FileTree) (options : TagOptions)
    (report : ReportOptions) : Prop :=
  (finish (Command.run pools (.tag options)) tree).1.isOk =
    (finish (Command.run pools (.report report)) tree).1.isOk

/-- One command alone fails where there is no directory for its file, and the other one alone where
the pool of threads that its configuration asks for cannot be built. -/
theorem Command.not_succeedAlike :
    (∃ out, AsksForSame sampleFiles (sampleTag out) sampleReport sampleConfiguration ∧
      Artifacts.HasRoom sampleFiles "out" ∧
      ¬ SucceedAlike .unlimited sampleFiles (sampleTag out) sampleReport) ∧
    ∃ out, AsksForSame sampleFiles (sampleTag out) sampleReport sampleConfiguration ∧
      Artifacts.HasRoom sampleFiles "out" ∧
      ¬ SucceedAlike Replay.eightThreads sampleFiles (sampleTag out) sampleReport := by
  refine ⟨⟨"missing/outcomes.jsonl", asksForSame_sample _, hasRoom_sample, ?_⟩,
    "outcomes.jsonl", asksForSame_sample _, hasRoom_sample, ?_⟩
  · unfold SucceedAlike
    decide +kernel
  · unfold SucceedAlike
    decide +kernel

end SignalReplay
