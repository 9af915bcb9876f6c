import SignalReplay.Files.Tree
import SignalReplay.Proofs.Failure

/-!
Files written and read back. What a write leaves in a file is found there, and the other files of its
directory are found as before: no directory is ever replaced, so all ways stay as they are. A write
that fails leaves the tree as it was, or a beginning of the content.
-/

namespace SignalReplay

namespace Path

/-! ## Names in paths -/

theorem splitSlashes_ne_nil (characters : List Char) : splitSlashes characters ≠ [] := by
  cases characters with
  | nil => exact List.cons_ne_nil _ _
  | cons character rest =>
      rw [splitSlashes]
      split
      · exact List.cons_ne_nil _ _
      · split <;> exact List.cons_ne_nil _ _

theorem splitSlashes_append (front back : List Char) :
    splitSlashes (front ++ '/' :: back) = splitSlashes front ++ splitSlashes back := by
  induction front with
  | nil => simp [splitSlashes]
  | cons character rest induction =>
      rw [List.cons_append, splitSlashes, splitSlashes, induction]
      split
      · rfl
      · rcases List.exists_cons_of_ne_nil (splitSlashes_ne_nil rest) with ⟨part, parts, parted⟩
        rw [parted]
        rfl

theorem splitSlashes_of_not_mem {characters : List Char} (plain : '/' ∉ characters) :
    splitSlashes characters = [characters] := by
  induction characters with
  | nil => rfl
  | cons character rest induction =>
      rcases List.ne_and_not_mem_of_not_mem_cons plain with ⟨other, later⟩
      simp [splitSlashes, Ne.symm other, induction later]

/-- Paths that lead into one directory differ in their last names alone. -/
theorem names_join (directory : String) :
    ∃ before, ∀ {name : String}, '/' ∉ name.toList →
      names (join directory name) = before ++ [name] := by
  have last {name : String} (plain : '/' ∉ name.toList) :
      (splitSlashes name.toList).map String.ofList = [name] := by
    rw [splitSlashes_of_not_mem plain, List.map_singleton, String.ofList_toList]
  have inside (outer : List Char) {name : String} (plain : '/' ∉ name.toList)
      (text : (join directory name).toList = outer ++ '/' :: name.toList) :
      names (join directory name) = (splitSlashes outer).map String.ofList ++ [name] := by
    rw [names, text, splitSlashes_append, List.map_append, last plain]
  by_cases empty : directory = ""
  · exact ⟨[], fun plain => by rw [empty]; simpa [names, join] using last plain⟩
  by_cases slash : directory.toList.getLast? = some '/'
  · rcases List.getLast?_eq_some_iff.mp slash with ⟨outer, text⟩
    exact ⟨_, fun plain => inside outer plain (by simp [join, text])⟩
  · exact ⟨_, fun plain => inside directory.toList plain (by simp [join, slash, empty])⟩

/-- A name that stands for a file of its own in whatever directory it is used. -/
structure IsFileName (name : String) : Prop where
  plain : '/' ∉ name.toList
  notIdle : isIdle name = false
  inside : name ≠ ".."
  notNull : name ≠ "null"

theorem IsFileName.join_ne {name : String} (proper : IsFileName name) (directory : String) :
    join directory name ≠ nullDevice := by
  intro equal
  rcases names_join directory with ⟨before, parted⟩
  have parted := parted proper.plain
  have known : names nullDevice = ["", "dev", "null"] := by rfl
  have last := congrArg List.getLast? parted
  rw [equal, known, List.getLast?_concat] at last
  exact proper.notNull (Option.some.inj last).symm

end Path

namespace FileTree

variable {tree written : FileTree} {place other : Place} {path : String} {content : List UInt8}

/-! ## Entries -/

theorem entry?_put_self (inside : isRootOrAround place = false) (tree : FileTree)
    (entry : FileEntry) : entry? (tree.put place entry) place = some entry := by
  simp [put, entry?, inside]

theorem entry?_put_other (different : other ≠ place) (tree : FileTree) (entry : FileEntry) :
    entry? (tree.put place entry) other = tree.entry? other := by
  have kept : (fun found : Place × FileEntry =>
      !decide (found.1 = place) && decide (found.1 = other)) = fun found =>
        decide (found.1 = other) := by
    funext found
    by_cases equal : found.1 = other
    · simp [equal, different]
    · simp [equal]
  simp [put, entry?, different.symm, List.find?_filter, kept]

/-! ## Ways -/

theorem walk_append (tree : FileTree) (start : Place) (front back : List String) :
    tree.walk start (front ++ back) = tree.walk start front >>= fun place => tree.walk place back := by
  induction front generalizing start with
  | nil => rfl
  | cons name rest induction =>
      rw [List.cons_append, walk, walk]
      split
      · split
        · rfl
        · exact induction _
      · rfl
      · rfl

theorem walk_cons_eq_ok_iff {start : Place} {name : String} {rest : List String} :
    tree.walk start (name :: rest) = .ok place ↔
      tree.entry? start = some .directory ∧ name.utf8ByteSize ≤ Path.greatestNameLength ∧
        tree.walk (goTo start name) rest = .ok place := by
  rw [walk]
  cases tree.entry? start with
  | none => simp
  | some entry =>
      cases entry with
      | file content => simp
      | directory =>
          dsimp only
          split
          · next long => simp [Nat.not_le.mpr long]
          · next short => simp [Nat.not_lt.mp short]

theorem walk_put (free : tree.entry? place ≠ some .directory) (entry : FileEntry)
    {names : List String} {start last : Place} (walked : tree.walk start names = .ok last) :
    (tree.put place entry).walk start names = .ok last := by
  induction names generalizing start with
  | nil => exact walked
  | cons name rest induction =>
      rcases walk_cons_eq_ok_iff.mp walked with ⟨directory, short, onwards⟩
      -- A way leads on from directories alone, and `place` is none.
      have different : start ≠ place := by
        rintro rfl
        exact free directory
      exact walk_cons_eq_ok_iff.mpr
        ⟨(entry?_put_other different tree entry).trans directory, short, induction onwards⟩

theorem placeOf_eq_ok_iff :
    tree.placeOf path = .ok place ↔
      checkPath path = .ok () ∧ tree.walk [] (Path.names path) = .ok place := by
  rw [placeOf, bind_eq_ok_iff]
  exact ⟨fun ⟨_, checked, walked⟩ => ⟨checked, walked⟩,
    fun ⟨checked, walked⟩ => ⟨(), checked, walked⟩⟩

theorem placeOf_put (free : tree.entry? place ≠ some .directory) (entry : FileEntry)
    (found : tree.placeOf path = .ok other) :
    (tree.put place entry).placeOf path = .ok other := by
  rcases placeOf_eq_ok_iff.mp found with ⟨checked, walked⟩
  exact placeOf_eq_ok_iff.mpr ⟨checked, walk_put free entry walked⟩

theorem goTo_of_walk {before : List String} {name : String} {start last : Place}
    (walked : tree.walk start (before ++ [name]) = .ok last) :
    ∃ outer, last = goTo outer name := by
  rw [walk_append] at walked
  rcases bind_eq_ok_iff.mp walked with ⟨outer, -, onwards⟩
  exact ⟨outer, (Except.ok.inj (walk_cons_eq_ok_iff.mp onwards).2.2).symm⟩

/-! ## Files -/

theorem read_eq_ok_iff (ordinary : path ≠ Path.nullDevice) :
    tree.read path = .ok content ↔
      ∃ place, tree.placeOf path = .ok place ∧ tree.entry? place = some (.file content) := by
  rw [read, if_neg ordinary, bind_eq_ok_iff]
  refine exists_congr fun place => and_congr_right fun _ => ?_
  cases tree.entry? place with
  | none => simp
  | some entry => cases entry <;> simp

theorem openFile_eq_ok_iff :
    tree.openFile path = .ok place ↔
      tree.placeOf path = .ok place ∧ tree.entry? place ≠ some .directory ∧
        tree.obstacle? place ≠ some .denied := by
  rw [openFile, bind_eq_ok_iff]
  constructor
  · rintro ⟨found, placed, opened⟩
    split at opened
    · cases opened
    · next free =>
      split at opened
      · cases opened
      · next allowed =>
        cases opened
        exact ⟨placed, free, allowed⟩
  · rintro ⟨placed, free, allowed⟩
    exact ⟨place, placed, by rw [if_neg free, if_neg allowed]⟩

theorem kept_isPrefix (tree : FileTree) (place : Place) (content : List UInt8) :
    tree.kept place content <+: content := by
  unfold kept
  split
  · exact List.take_prefix _ _
  · exact List.prefix_refl _

theorem hasRoom_iff {place : Place} :
    tree.hasRoom place content = true ↔ tree.kept place content = content := by
  unfold hasRoom kept
  split
  · rw [decide_eq_true_iff]
    refine ⟨List.take_of_length_le, fun whole => ?_⟩
    have length := congrArg List.length whole
    rw [List.length_take] at length
    omega
  · simp

/-- A path leads to a file of a tree, and in the other tree this file holds the content. -/
def Puts (tree : FileTree) (path : String) (content : List UInt8) (written : FileTree) : Prop :=
  ∃ place, tree.placeOf path = .ok place ∧ tree.entry? place ≠ some .directory ∧
    written = tree.put place (.file content)

theorem write_eq_ok_iff (ordinary : path ≠ Path.nullDevice) :
    tree.write path content = (.ok (), written) ↔
      ∃ place, tree.openFile path = .ok place ∧ tree.kept place content = content ∧
        written = tree.put place (.file content) := by
  rw [write, if_neg ordinary]
  cases tree.openFile path with
  | error fault => simp
  | ok place =>
      dsimp only
      rw [fill]
      by_cases whole : tree.kept place content = content
      · simp [hasRoom_iff.mpr whole, whole, eq_comm]
      · simp [mt hasRoom_iff.mp whole, whole]

theorem puts_of_write (ordinary : path ≠ Path.nullDevice)
    (wrote : tree.write path content = (.ok (), written)) : Puts tree path content written := by
  rcases (write_eq_ok_iff ordinary).mp wrote with ⟨place, opened, -, rfl⟩
  rcases openFile_eq_ok_iff.mp opened with ⟨placed, free, -⟩
  exact ⟨place, placed, free, rfl⟩

/-- A write that fails is refused before it changes anything, or breaks off. -/
theorem eq_or_puts_of_write_error {fault : FileFault} (ordinary : path ≠ Path.nullDevice)
    (failed : tree.write path content = (.error fault, written)) :
    written = tree ∨ ∃ part, part <+: content ∧ part ≠ content ∧ Puts tree path part written := by
  rw [write, if_neg ordinary] at failed
  cases opened : tree.openFile path with
  | error refusal =>
      rw [opened] at failed
      exact .inl (Prod.mk.inj failed).2.symm
  | ok place =>
      rw [opened] at failed
      rcases Prod.mk.inj failed with ⟨broken, rfl⟩
      rcases openFile_eq_ok_iff.mp opened with ⟨placed, free, -⟩
      refine .inr ⟨tree.kept place content, tree.kept_isPrefix place content, ?_,
        place, placed, free, rfl⟩
      intro whole
      rw [if_pos (hasRoom_iff.mpr whole)] at broken
      cases broken

theorem isRootOrAround_of_free (free : tree.entry? place ≠ some .directory) :
    isRootOrAround place = false := by
  rw [Bool.eq_false_iff]
  intro root
  apply free
  unfold entry?
  rw [if_pos root]

theorem Puts.read (ordinary : path ≠ Path.nullDevice) (put : Puts tree path content written) :
    written.read path = .ok content := by
  rcases put with ⟨place, found, free, rfl⟩
  exact (read_eq_ok_iff ordinary).mpr
    ⟨place, placeOf_put free _ found, entry?_put_self (isRootOrAround_of_free free) tree _⟩

/-- Where nothing stands in the way, it does not depend on the content whether a file can be
written. -/
theorem exists_write (clear : tree.obstacles = [])
    (possible : (tree.write path content).1.isOk = true) (bytes : List UInt8) :
    ∃ other, tree.write path bytes = (.ok (), other) := by
  have free (place : Place) : tree.obstacle? place = none := by
    rw [obstacle?, clear]
    rfl
  have whole (place : Place) (bytes : List UInt8) : tree.kept place bytes = bytes := by
    rw [kept, free]
  by_cases null : path = Path.nullDevice
  · exact ⟨tree, by rw [write, if_pos null]⟩
  · rcases exists_eq_ok possible with ⟨_, succeeded⟩
    rcases (write_eq_ok_iff null).mp (Prod.ext succeeded rfl) with ⟨place, opened, -⟩
    exact ⟨_, (write_eq_ok_iff null).mpr ⟨place, opened, whole place bytes, rfl⟩⟩

theorem exists_write_of_write {otherPath : String} {bytes : List UInt8} {other : FileTree}
    (ordinary : path ≠ Path.nullDevice) (otherOrdinary : otherPath ≠ Path.nullDevice)
    (wrote : tree.write path content = (.ok (), written))
    (possible : tree.write otherPath bytes = (.ok (), other)) :
    ∃ later, written.write otherPath bytes = (.ok (), later) := by
  rcases puts_of_write ordinary wrote with ⟨place, found, free, rfl⟩
  rcases (write_eq_ok_iff otherOrdinary).mp possible with ⟨otherPlace, opened, whole, _⟩
  rcases openFile_eq_ok_iff.mp opened with ⟨otherFound, otherFree, allowed⟩
  refine ⟨_, (write_eq_ok_iff otherOrdinary).mpr ⟨otherPlace,
    openFile_eq_ok_iff.mpr ⟨placeOf_put free _ otherFound, ?_, allowed⟩, whole, rfl⟩⟩
  by_cases same : otherPlace = place
  · rw [same, entry?_put_self (isRootOrAround_of_free free)]
    exact fun equal => by cases equal
  · rwa [entry?_put_other same]

theorem obstacles_makeDirectory {made : FileTree} (ready : tree.makeDirectory path = .ok made) :
    made.obstacles = tree.obstacles := by
  rcases bind_eq_ok_iff.mp ready with ⟨_, -, ready⟩
  split at ready
  · cases ready
  · rcases bind_eq_ok_iff.mp ready with ⟨outer, -, ready⟩
    rcases bind_eq_ok_iff.mp ready with ⟨place, -, ready⟩
    split at ready
    · cases ready
    · split at ready
      · cases ready
      · rw [← Except.ok.inj ready]
        rfl

@[simp]
theorem obstacles_makeOutward (tree : FileTree) (paths : List String) :
    (tree.makeOutward paths).2.obstacles = tree.obstacles := by
  induction paths with
  | nil => rfl
  | cons path outer induction =>
      rw [makeOutward]
      split
      · next ready => exact obstacles_makeDirectory ready
      · split
        · next failed => exact failed ▸ induction
        · next between outerReady =>
          have kept : between.obstacles = tree.obstacles := by
            rw [outerReady] at induction
            exact induction
          split
          · next ready => exact (obstacles_makeDirectory ready).trans kept
          · exact kept
      · rfl

@[simp]
theorem obstacles_makeDirectories (tree : FileTree) (path : String) :
    (tree.makeDirectories path).2.obstacles = tree.obstacles :=
  tree.obstacles_makeOutward _

/-! ## Files of one directory -/

variable {directory name otherName : String}

theorem getLast?_of_placeOf_join (proper : Path.IsFileName name)
    (found : tree.placeOf (Path.join directory name) = .ok place) :
    place.getLast? = some name := by
  rcases Path.names_join directory with ⟨before, names⟩
  rcases bind_eq_ok_iff.mp found with ⟨_, _, walked⟩
  rw [names proper.plain] at walked
  rcases goTo_of_walk walked with ⟨outer, rfl⟩
  simp [goTo, proper.notIdle, proper.inside]

/-- Where one file of a directory has a place, every path of the directory leads where it did after
anything was put there. -/
theorem placeOf_join_put (proper : Path.IsFileName name) (otherProper : Path.IsFileName otherName)
    (found : tree.placeOf (Path.join directory name) = .ok place)
    (free : tree.entry? place ≠ some .directory) (entry : FileEntry) :
    (tree.put place entry).placeOf (Path.join directory otherName) =
      tree.placeOf (Path.join directory otherName) := by
  rcases Path.names_join directory with ⟨before, names⟩
  rcases placeOf_eq_ok_iff.mp found with ⟨-, walked⟩
  rw [names proper.plain, walk_append] at walked
  rcases bind_eq_ok_iff.mp walked with ⟨outer, walkedOuter, last⟩
  have outerDirectory := (walk_cons_eq_ok_iff.mp last).1
  have different : outer ≠ place := by
    rintro rfl
    exact free outerDirectory
  rw [placeOf, placeOf, names otherProper.plain, walk_append, walk_append, walkedOuter,
    walk_put free entry walkedOuter]
  change (checkPath _ >>= fun _ => (tree.put place entry).walk outer [otherName]) =
    (checkPath _ >>= fun _ => tree.walk outer [otherName])
  rw [walk, walk, entry?_put_other different]
  rfl

/-- Writing a file of a directory changes nothing for the other files of the directory, whether they
can be read or not. -/
theorem Puts.read_join (proper : Path.IsFileName name) (otherProper : Path.IsFileName otherName)
    (different : otherName ≠ name) (put : Puts tree (Path.join directory name) content written) :
    written.read (Path.join directory otherName) = tree.read (Path.join directory otherName) := by
  rcases put with ⟨place, found, free, rfl⟩
  rw [FileTree.read, FileTree.read, if_neg (otherProper.join_ne directory),
    if_neg (otherProper.join_ne directory), placeOf_join_put proper otherProper found free]
  cases otherFound : tree.placeOf (Path.join directory otherName) with
  | error fault => rfl
  | ok other =>
      have apart : other ≠ place := by
        rintro rfl
        have last := getLast?_of_placeOf_join proper found
        rw [getLast?_of_placeOf_join otherProper otherFound] at last
        exact different (Option.some.inj last)
      dsimp only [bind, Except.bind]
      rw [entry?_put_other apart]

/-! ## Sessions -/

@[simp]
theorem finish_read_bind (tree : FileTree) (path : String)
    (next : Except FileFault (List UInt8) → ExceptT ε (StateM FileTree) α) :
    finish ((liftM (FileStore.read path : StateM FileTree _) : ExceptT ε (StateM FileTree) _) >>=
      next) tree = finish (next (tree.read path)) tree := rfl

@[simp]
theorem finish_write_bind (tree : FileTree) (path : String) (content : List UInt8)
    (next : Except FileFault Unit → ExceptT ε (StateM FileTree) α) :
    finish ((liftM (FileStore.write path content : StateM FileTree _) :
        ExceptT ε (StateM FileTree) _) >>= next) tree =
      finish (next (tree.write path content).1) (tree.write path content).2 := rfl

@[simp]
theorem finish_makeDirectories_bind (tree : FileTree) (path : String)
    (next : Except FileFault Unit → ExceptT ε (StateM FileTree) α) :
    finish ((liftM (FileStore.makeDirectories path : StateM FileTree _) :
        ExceptT ε (StateM FileTree) _) >>= next) tree =
      finish (next (tree.makeDirectories path).1) (tree.makeDirectories path).2 := rfl

end FileTree

end SignalReplay
