import SignalReplay.Proofs.Files.Tree
import SignalReplay.Proofs.Text.Utf8
import SignalReplay.Replay.Files

/-!
Inputs loaded from a tree. Loading changes nothing in the tree, and what is loaded is decided by
what is at the path. A replay of files is the replay of what they are loaded as.
-/

namespace SignalReplay

namespace FileTree

def seriesAt (tree : FileTree) (pattern path : String) : Except LoadError CandleSeries :=
  match tree.read path with
  | .ok bytes => CandleTable.read pattern path bytes
  | .error fault => .error (if fault.isAbsent then .notFound path else .unreadableTable fault)

def signalsAt (tree : FileTree) (pattern path : String) : Except LoadError (List Signal) :=
  match tree.read path with
  | .ok bytes => SignalLines.read pattern path bytes
  | .error fault => .error (if fault.isAbsent then .notFound path else .unreadable fault)

/-- A configuration that is given: the one in the file at a path, or else the standard one. -/
inductive IsConfigured (tree : FileTree) : Option String → Configuration → Prop
  | standard : IsConfigured tree none {}
  | file {path text : String} {configuration : Configuration}
      (held : tree.read path = .ok (Utf8.encode text))
      (parsed : (Toml.ofText? text).bind Configuration.ofMembers? = some configuration) :
      IsConfigured tree (some path) configuration

end FileTree

section

variable (tree : FileTree) (pattern path : String)

@[simp]
theorem finish_loadCandles :
    finish (loadCandles pattern path) tree = (tree.seriesAt pattern path, tree) := by
  rw [loadCandles, FileTree.finish_read_bind, FileTree.seriesAt]
  cases tree.read path with
  | error fault => rfl
  | ok bytes => exact finish_liftExcept _ tree

@[simp]
theorem finish_loadSignals :
    finish (loadSignals pattern path) tree = (tree.signalsAt pattern path, tree) := by
  rw [loadSignals, FileTree.finish_read_bind, FileTree.signalsAt]
  cases tree.read path with
  | error fault => rfl
  | ok bytes => exact finish_liftExcept _ tree

end

variable {tree : FileTree} {configuration : Configuration}

theorem finish_loadConfiguration {path text : String}
    (held : tree.read path = .ok (Utf8.encode text))
    (parsed : (Toml.ofText? text).bind Configuration.ofMembers? = some configuration) :
    finish (loadConfiguration path) tree =
      (configuration.check.map fun _ => configuration, tree) := by
  rw [loadConfiguration, FileTree.finish_read_bind, held]
  dsimp only
  rw [Utf8.decode_encode]
  dsimp only
  rw [finish_liftExcept, Configuration.ofToml, parsed]
  dsimp only
  generalize configuration.check = checked
  cases checked <;> rfl

theorem Replay.finish_ofFiles {pools : ThreadPools} {candles signals : String}
    (paths : configuration.inputPaths = .ok (candles, signals)) (tree : FileTree) :
    finish (ofFiles pools configuration) tree =
      (do
        configuration.check.mapError ReplayError.configuration
        let series ← (tree.seriesAt configuration.data.pattern candles).mapError ReplayError.data
        let found ← (tree.signalsAt configuration.data.pattern signals).mapError ReplayError.data
        run pools configuration series found, tree) := by
  rw [ofFiles, paths, finish_bind, finish_liftExcept]
  cases configuration.check with
  | error error => rfl
  | ok _ =>
      change finish ((loadCandles configuration.data.pattern candles).adapt ReplayError.data >>=
        fun series => (loadSignals configuration.data.pattern signals).adapt ReplayError.data >>=
          fun found => liftExcept (run pools configuration series found)) tree = _
      rw [finish_bind, finish_adapt, finish_loadCandles]
      cases tree.seriesAt configuration.data.pattern candles with
      | error error => rfl
      | ok series =>
          dsimp only [Except.mapError]
          rw [finish_bind, finish_adapt, finish_loadSignals]
          cases tree.signalsAt configuration.data.pattern signals with
          | error error => rfl
          | ok found =>
              dsimp only [Except.mapError, bind, Except.bind]
              rw [finish_liftExcept]

end SignalReplay
