import SignalReplay.Proofs.Files.Tree
import SignalReplay.Proofs.Text.Lines

/-!
Directories that are made. Making a directory that is there changes nothing, and one that cannot be
made is not there afterwards: what is missing is made from the outside inwards, so nothing lies in a
directory whose making failed. Files inside a directory are found only if the directory is.
-/

namespace SignalReplay

namespace Path

def LiesIn (inner outer : String) : Prop :=
  ∃ more, inner.toList = outer.toList ++ '/' :: more

theorem LiesIn.trans {inner middle outer : String} (first : LiesIn inner middle)
    (second : LiesIn middle outer) : LiesIn inner outer := by
  rcases first with ⟨more, first⟩
  rcases second with ⟨rest, second⟩
  exact ⟨rest ++ '/' :: more, by rw [first, second, List.append_assoc, List.cons_append]⟩

theorem names_of_liesIn {inner outer : String} (inside : LiesIn inner outer) :
    ∃ name rest, names inner = names outer ++ name :: rest := by
  rcases inside with ⟨more, text⟩
  rcases List.exists_cons_of_ne_nil (splitSlashes_ne_nil more) with ⟨part, parts, parted⟩
  refine ⟨String.ofList part, parts.map String.ofList, ?_⟩
  rw [names, text, splitSlashes_append, List.map_append, parted]
  rfl

/-! ## Outward ways -/

def outwardPath (first : String) (reversed : List String) : String :=
  "/".intercalate (first :: reversed.reverse)

theorem toList_outwardPath (first : String) (reversed : List String) :
    (outwardPath first reversed).toList =
      first.toList ++ reversed.reverse.flatMap fun name => '/' :: name.toList := by
  rw [outwardPath, Text.toList_intercalate_cons]
  rfl

theorem liesIn_outwardPath (first name : String) (rest : List String) :
    LiesIn (outwardPath first (name :: rest)) (outwardPath first rest) := by
  refine ⟨name.toList, ?_⟩
  rw [toList_outwardPath, toList_outwardPath, List.reverse_cons, List.flatMap_append,
    List.flatMap_singleton, List.append_assoc]

def outwardPaths (first : String) (reversed : List String) : List String :=
  (outward reversed).map (outwardPath first) ++ [first]

@[simp]
theorem outwardPath_nil (first : String) : outwardPath first [] = first := by
  rw [outwardPath, List.reverse_nil, String.intercalate_singleton]

theorem pairwise_outwardPaths (first : String) (reversed : List String) :
    (outwardPaths first reversed).Pairwise LiesIn ∧
      ∀ outer ∈ outwardPaths first reversed,
        outwardPath first reversed = outer ∨ LiesIn (outwardPath first reversed) outer := by
  induction reversed with
  | nil =>
      refine ⟨List.pairwise_singleton _ _, fun outer member => .inl ?_⟩
      rw [outwardPath_nil, List.mem_singleton.mp member]
  | cons name rest induction =>
      have inside := liesIn_outwardPath first name rest
      have beyond (outer : String) (member : outer ∈ outwardPaths first rest) :
          LiesIn (outwardPath first (name :: rest)) outer := by
        rcases induction.2 outer member with equal | further
        · exact equal ▸ inside
        · exact inside.trans further
      rw [outwardPaths, outward]
      split
      · exact ⟨induction.1, fun outer member => .inr (beyond outer member)⟩
      · refine ⟨List.pairwise_cons.mpr ⟨beyond, induction.1⟩, ?_⟩
        intro outer member
        rcases List.mem_cons.mp member with equal | later
        · exact .inl equal.symm
        · exact .inr (beyond outer later)

theorem join_splitSlashes {characters first : List Char} {rest : List (List Char)}
    (split : splitSlashes characters = first :: rest) :
    characters = first ++ rest.flatMap fun part => '/' :: part := by
  induction characters generalizing first rest with
  | nil =>
      cases split
      rfl
  | cons character characters induction =>
      rw [splitSlashes] at split
      split at split
      · next slash =>
        cases split
        rcases List.exists_cons_of_ne_nil (splitSlashes_ne_nil characters) with
          ⟨part, parts, parted⟩
        rw [parted, List.flatMap_cons, List.nil_append, List.cons_append, ← induction parted,
          beq_iff_eq.mp slash]
      · split at split
        · next empty => exact absurd empty (splitSlashes_ne_nil characters)
        · next part parts parted =>
          cases split
          rw [List.cons_append, ← induction parted]

theorem pairwise_ancestors (path : String) : (ancestors path).Pairwise LiesIn := by
  rcases List.exists_cons_of_ne_nil (splitSlashes_ne_nil path.toList) with ⟨part, parts, parted⟩
  have names : names path = String.ofList part :: parts.map String.ofList := by
    rw [Path.names, parted, List.map_cons]
  have whole : outwardPath (String.ofList part) (parts.map String.ofList).reverse = path := by
    apply String.toList_injective
    rw [toList_outwardPath, List.reverse_reverse, List.flatMap_map, String.toList_ofList,
      join_splitSlashes parted]
    simp
  rcases pairwise_outwardPaths (String.ofList part) (parts.map String.ofList).reverse with
    ⟨ordered, outside⟩
  rw [whole] at outside
  rw [ancestors, names]
  dsimp only
  split
  · exact List.Pairwise.nil
  · change List.Pairwise LiesIn (path :: (outwardPaths _ _).tail)
    generalize outwardPaths (String.ofList part) (parts.map String.ofList).reverse = paths at *
    cases paths with
    | nil => exact List.pairwise_singleton _ _
    | cons nearest others =>
        rcases List.pairwise_cons.mp ordered with ⟨nearestInside, othersOrdered⟩
        refine List.pairwise_cons.mpr ⟨fun outer member => ?_, othersOrdered⟩
        rcases outside nearest List.mem_cons_self with equal | inside
        · exact equal ▸ nearestInside outer member
        · exact inside.trans (nearestInside outer member)

end Path

namespace FileTree

variable {tree made : FileTree} {place : Place} {path inner outer : String}

/-! ## Paths of a tree -/

theorem checkPath_eq_ok_iff :
    checkPath path = .ok () ↔ '\x00' ∉ path.toList ∧
      path.utf8ByteSize ≤ Path.greatestLength ∧ path ≠ "" ∧ Path.isAbsolute path = false := by
  have nonempty : path.isEmpty = false ↔ path ≠ "" := by
    rw [← Bool.not_eq_true, String.isEmpty_iff]
  grind [checkPath]

theorem checkPath_of_append {more : List Char} (text : inner.toList = outer.toList ++ more)
    (nonempty : outer ≠ "") (checked : checkPath inner = .ok ()) : checkPath outer = .ok () := by
  have whole : inner = outer ++ String.ofList more := by
    apply String.toList_injective
    rw [text, String.toList_append, String.toList_ofList]
  rw [checkPath_eq_ok_iff] at checked ⊢
  rcases checked with ⟨noNull, short, -, relative⟩
  refine ⟨fun null => noNull (text ▸ List.mem_append_left _ null), ?_, nonempty, ?_⟩
  · rw [whole, String.utf8ByteSize_append] at short
    omega
  · rw [Path.isAbsolute, decide_eq_false_iff_not] at relative ⊢
    rw [text] at relative
    cases letters : outer.toList with
    | nil => simp
    | cons first rest => simpa [letters] using relative

/-! ## Directories that are there -/

@[simp]
theorem isDirectory_eq_true_iff :
    tree.isDirectory path = true ↔
      ∃ place, tree.placeOf path = .ok place ∧ tree.entry? place = some .directory := by
  unfold isDirectory
  cases tree.placeOf path <;> simp

/-- A way that leads on comes through directories alone. -/
theorem isDirectory_of_liesIn (inside : Path.LiesIn inner outer)
    (found : tree.placeOf inner = .ok place) : tree.isDirectory outer = true := by
  rcases placeOf_eq_ok_iff.mp found with ⟨checked, walked⟩
  rcases Path.names_of_liesIn inside with ⟨name, rest, names⟩
  rcases inside with ⟨more, text⟩
  have nonempty : outer ≠ "" := by
    rintro rfl
    have relative := (checkPath_eq_ok_iff.mp checked).2.2.2
    simp [Path.isAbsolute, text] at relative
  rw [names, walk_append] at walked
  rcases bind_eq_ok_iff.mp walked with ⟨between, walkedOuter, onwards⟩
  exact isDirectory_eq_true_iff.mpr ⟨between,
    placeOf_eq_ok_iff.mpr ⟨checkPath_of_append text nonempty checked, walkedOuter⟩,
    (walk_cons_eq_ok_iff.mp onwards).1⟩

theorem isDirectory_of_placeOf_join {directory name : String} (nonempty : directory ≠ "")
    (found : tree.placeOf (Path.join directory name) = .ok place) :
    tree.isDirectory directory = true := by
  by_cases slash : directory.toList.getLast? = some '/'
  · -- The slash at the end stands for one more, empty name, which leads nowhere else.
    rcases List.getLast?_eq_some_iff.mp slash with ⟨outer, text⟩
    have joined : (Path.join directory name).toList = directory.toList ++ name.toList := by
      simp [Path.join, slash]
    rcases placeOf_eq_ok_iff.mp found with ⟨checked, walked⟩
    have checkedDirectory := checkPath_of_append joined nonempty checked
    rcases List.exists_cons_of_ne_nil (Path.splitSlashes_ne_nil name.toList) with
      ⟨part, parts, parted⟩
    rw [Path.names, joined, text, List.append_assoc, List.singleton_append,
      Path.splitSlashes_append, List.map_append, walk_append, parted] at walked
    rcases bind_eq_ok_iff.mp walked with ⟨between, walkedOuter, onwards⟩
    rcases walk_cons_eq_ok_iff.mp onwards with ⟨isDirectory, -, -⟩
    refine isDirectory_eq_true_iff.mpr
      ⟨between, placeOf_eq_ok_iff.mpr ⟨checkedDirectory, ?_⟩, isDirectory⟩
    rw [Path.names, text, Path.splitSlashes_append, List.map_append, walk_append, walkedOuter]
    exact walk_cons_eq_ok_iff.mpr ⟨isDirectory, by decide, rfl⟩
  · have inside : Path.LiesIn (Path.join directory name) directory :=
      ⟨name.toList, by simp [Path.join, slash, nonempty]⟩
    exact isDirectory_of_liesIn inside found

theorem makeDirectory_of_isDirectory (there : tree.isDirectory path = true) :
    tree.makeDirectory path = .error .alreadyThere := by
  rcases isDirectory_eq_true_iff.mp there with ⟨place, found, isDirectory⟩
  rcases placeOf_eq_ok_iff.mp found with ⟨checked, walked⟩
  have split := List.takeWhile_append_dropWhile (p := fun name : String => name.isEmpty)
    (l := (Path.names path).reverse)
  rw [makeDirectory, checked]
  generalize (Path.names path).reverse.takeWhile _ = idle at split
  generalize (Path.names path).reverse.dropWhile _ = kept at split ⊢
  cases kept with
  | nil => rfl
  | cons name before =>
      have names : Path.names path = before.reverse ++ name :: idle.reverse := by
        rw [← List.reverse_reverse (Path.names path), ← split]
        simp
      rw [names, walk_append] at walked
      rcases bind_eq_ok_iff.mp walked with ⟨outer, walkedOuter, onwards⟩
      rcases walk_cons_eq_ok_iff.mp onwards with ⟨outerDirectory, short, last⟩
      have walkedName : tree.walk outer [name] = .ok (goTo outer name) :=
        walk_cons_eq_ok_iff.mpr ⟨outerDirectory, short, rfl⟩
      have taken : (tree.entry? (goTo outer name)).isSome = true := by
        cases rest : idle.reverse with
        | nil =>
            rw [rest] at last
            cases last
            rw [isDirectory, Option.isSome_some]
        | cons next others =>
            rw [rest] at last
            rw [(walk_cons_eq_ok_iff.mp last).1, Option.isSome_some]
      change (tree.walk [] before.reverse >>= fun outer => tree.walk outer [name] >>= _) = _
      rw [walkedOuter]
      change (tree.walk outer [name] >>= _) = _
      rw [walkedName]
      change (if _ then _ else _) = _
      rw [if_pos (by rw [taken, Bool.or_true])]

theorem ancestors_eq_cons (nonempty : path ≠ "") :
    ∃ outer, Path.ancestors path = path :: outer := by
  rcases List.exists_cons_of_ne_nil (Path.splitSlashes_ne_nil path.toList) with
    ⟨part, parts, parted⟩
  rw [Path.ancestors, Path.names, parted]
  exact ⟨_, if_neg (by simpa using nonempty)⟩

theorem ne_empty_of_isDirectory (there : tree.isDirectory path = true) : path ≠ "" := by
  rcases isDirectory_eq_true_iff.mp there with ⟨_, found, _⟩
  exact (checkPath_eq_ok_iff.mp (placeOf_eq_ok_iff.mp found).1).2.2.1

theorem makeDirectories_of_isDirectory (there : tree.isDirectory path = true) :
    tree.makeDirectories path = (.ok (), tree) := by
  rcases ancestors_eq_cons (ne_empty_of_isDirectory there) with ⟨outer, ancestors⟩
  rw [makeDirectories, ancestors, makeOutward, makeDirectory_of_isDirectory there]
  simp [there]

/-- A directory is made only where none is there; otherwise nothing is made. -/
theorem absent_or_eq_of_makeDirectories {result : Except FileFault Unit}
    (ready : tree.makeDirectories path = (result, made)) :
    (path ≠ "" ∧ tree.isDirectory path = false) ∨ result = .ok () ∧ made = tree := by
  by_cases empty : path = ""
  · subst empty
    cases ready
    exact .inr ⟨rfl, rfl⟩
  · cases there : tree.isDirectory path with
    | false => exact .inl ⟨empty, rfl⟩
    | true =>
        rw [makeDirectories_of_isDirectory there] at ready
        cases ready
        exact .inr ⟨rfl, rfl⟩

/-! ## Directories that cannot be made -/

theorem makeOutward_cons_eq_error {outer : List String} {fault : FileFault}
    (failed : tree.makeOutward (path :: outer) = (.error fault, made)) :
    made.isDirectory path = false ∨ tree.makeOutward outer = (.error fault, made) := by
  -- Wherever a fault is told, it is told because no directory was found at the path.
  have refused {later : FileTree} {cause : FileFault}
      (told : ((if later.isDirectory path then .ok () else .error cause : Except FileFault Unit),
        later) = (.error fault, made)) : made.isDirectory path = false := by
    cases there : later.isDirectory path with
    | true => simp [there] at told
    | false => exact (Prod.mk.inj told).2 ▸ there
  rw [makeOutward] at failed
  split at failed
  · cases failed
  · split at failed
    · next outerFailed => exact .inr (outerFailed.trans failed)
    · split at failed
      · cases failed
      · exact .inl (refused failed)
  · exact .inl (refused failed)

theorem isDirectory_of_makeOutward_error {outer : List String} {fault : FileFault}
    (ordered : (path :: outer).Pairwise Path.LiesIn)
    (failed : tree.makeOutward (path :: outer) = (.error fault, made)) :
    made.isDirectory path = false := by
  induction outer generalizing path with
  | nil =>
      rcases makeOutward_cons_eq_error failed with absent | outerFailed
      · exact absent
      · cases outerFailed
  | cons next outer induction =>
      rcases List.pairwise_cons.mp ordered with ⟨inside, outerOrdered⟩
      rcases makeOutward_cons_eq_error failed with absent | outerFailed
      · exact absent
      · have absent := induction outerOrdered outerFailed
        rw [Bool.eq_false_iff] at absent ⊢
        intro there
        rcases isDirectory_eq_true_iff.mp there with ⟨place, found, -⟩
        exact absent (isDirectory_of_liesIn (inside next List.mem_cons_self) found)

theorem isDirectory_of_makeDirectories_error {fault : FileFault}
    (failed : tree.makeDirectories path = (.error fault, made)) :
    made.isDirectory path = false := by
  have nonempty : path ≠ "" := by
    rintro rfl
    cases failed
  rcases ancestors_eq_cons nonempty with ⟨outer, ancestors⟩
  have ordered := Path.pairwise_ancestors path
  rw [makeDirectories, ancestors] at failed
  rw [ancestors] at ordered
  exact isDirectory_of_makeOutward_error ordered failed

/-! ## Files of a directory -/

theorem exists_read_eq_error {directory name : String} (proper : Path.IsFileName name)
    (nonempty : directory ≠ "") (absent : tree.isDirectory directory = false) :
    ∃ fault, tree.read (Path.join directory name) = .error fault := by
  rw [read, if_neg (proper.join_ne directory)]
  cases found : tree.placeOf (Path.join directory name) with
  | error fault => exact ⟨fault, rfl⟩
  | ok place => simp [isDirectory_of_placeOf_join nonempty found] at absent

end FileTree

end SignalReplay
