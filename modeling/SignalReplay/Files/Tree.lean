import SignalReplay.Files.Path
import SignalReplay.Files.Store

/-!
Trees of files in memory. A place is the list of names from the root of the tree. The root is a
directory that is always there, and so are the directories around it, which are reached by two
dots. What stands in the way of writing at a place is part of the tree.
-/

namespace SignalReplay

inductive FileEntry
  | file (content : List UInt8)
  | directory
deriving DecidableEq, Repr

inductive Obstacle
  | denied
  /-- A file there takes no more than a number of bytes. -/
  | limit (bytes : Nat)
deriving DecidableEq, Repr

abbrev Place := List String

structure FileTree where
  entries : List (Place × FileEntry) := []
  obstacles : List (Place × Obstacle) := []

namespace FileTree

def empty : FileTree := {}

/-- The root of the tree or a directory around it. -/
def isRootOrAround (place : Place) : Bool :=
  place.all (· = "..")

def entry? (tree : FileTree) (place : Place) : Option FileEntry :=
  if isRootOrAround place then some .directory
  else (tree.entries.find? (·.1 = place)).map Prod.snd

def obstacle? (tree : FileTree) (place : Place) : Option Obstacle :=
  (tree.obstacles.find? (·.1 = place)).map Prod.snd

def put (tree : FileTree) (place : Place) (entry : FileEntry) : FileTree :=
  { tree with entries := (place, entry) :: tree.entries.filter (·.1 ≠ place) }

/-! ## Ways -/

def goTo (place : Place) (name : String) : Place :=
  if Path.isIdle name then place
  else if name = ".." && !isRootOrAround place then place.dropLast
  else place ++ [name]

/-- Walk along names. Every place but the last must be a directory. -/
def walk (tree : FileTree) (place : Place) : List String → Except FileFault Place
  | [] => .ok place
  | name :: rest =>
    match tree.entry? place with
    | some .directory =>
      if Path.greatestNameLength < name.utf8ByteSize then .error .tooLong
      else walk tree (goTo place name) rest
    | some (.file _) => .error .notADirectory
    | none => .error .missing

def checkPath (path : String) : Except FileFault Unit :=
  if path.toList.contains '\x00' then .error .notAPath
  else if Path.greatestLength < path.utf8ByteSize then .error .tooLong
  else if path.isEmpty || Path.isAbsolute path then .error .missing
  else .ok ()

def placeOf (tree : FileTree) (path : String) : Except FileFault Place := do
  checkPath path
  walk tree [] (Path.names path)

def isDirectory (tree : FileTree) (path : String) : Bool :=
  match tree.placeOf path with
  | .ok place => tree.entry? place = some .directory
  | .error _ => false

/-! ## Files -/

def read (tree : FileTree) (path : String) : Except FileFault (List UInt8) :=
  if path = Path.nullDevice then .ok []
  else do
    match tree.entry? (← tree.placeOf path) with
    | some (.file content) => .ok content
    | some .directory => .error .isADirectory
    | none => .error .missing

def openFile (tree : FileTree) (path : String) : Except FileFault Place := do
  let place ← tree.placeOf path
  if tree.entry? place = some .directory then .error .isADirectory
  else if tree.obstacle? place = some .denied then .error .denied
  else .ok place

def hasRoom (tree : FileTree) (place : Place) (content : List UInt8) : Bool :=
  match tree.obstacle? place with
  | some (.limit bytes) => content.length ≤ bytes
  | _ => true

def kept (tree : FileTree) (place : Place) (content : List UInt8) : List UInt8 :=
  match tree.obstacle? place with
  | some (.limit bytes) => content.take bytes
  | _ => content

/-- Replace what a file holds. Opening it has emptied it, so that without room for all of the
content a beginning of it is left. -/
def fill (tree : FileTree) (place : Place) (content : List UInt8) :
    Except FileFault Unit × FileTree :=
  (if tree.hasRoom place content then .ok () else .error .noRoom,
    tree.put place (.file (tree.kept place content)))

def write (tree : FileTree) (path : String) (content : List UInt8) :
    Except FileFault Unit × FileTree :=
  if path = Path.nullDevice then (.ok (), tree)
  else
    match tree.openFile path with
    | .ok place => tree.fill place content
    | .error fault => (.error fault, tree)

/-! ## Directories -/

/-- Make a directory inside a directory that is there. Idle names and two dots at the end name
what is there already, and only empty ones may follow a new name. -/
def makeDirectory (tree : FileTree) (path : String) : Except FileFault FileTree := do
  checkPath path
  match (Path.names path).reverse.dropWhile (·.isEmpty) with
  | [] => .error .alreadyThere
  | name :: before =>
    let outer ← walk tree [] before.reverse
    -- Walking on to the place itself makes sure that `outer` is a directory.
    let place ← walk tree outer [name]
    if Path.isIdle name || name = ".." || (tree.entry? place).isSome then .error .alreadyThere
    else if tree.obstacle? place = some .denied then .error .denied
    else .ok (tree.put place .directory)

/-- Make a directory whose way outward is given, and what is missing around it. What was made
stays even if the directory itself cannot be made. -/
def makeOutward (tree : FileTree) : List String → Except FileFault Unit × FileTree
  | [] => (.ok (), tree)
  | path :: outer =>
    match tree.makeDirectory path with
    | .ok made => (.ok (), made)
    | .error .missing =>
      match makeOutward tree outer with
      | (.error fault, tree) => (.error fault, tree)
      | (.ok (), tree) =>
        match tree.makeDirectory path with
        | .ok made => (.ok (), made)
        | .error fault => (if tree.isDirectory path then .ok () else .error fault, tree)
    | .error fault => (if tree.isDirectory path then .ok () else .error fault, tree)

def makeDirectories (tree : FileTree) (path : String) : Except FileFault Unit × FileTree :=
  tree.makeOutward (Path.ancestors path)

instance : FileStore (StateM FileTree) where
  read path := fun tree => (tree.read path, tree)
  write path content := fun tree => tree.write path content
  makeDirectories path := fun tree => tree.makeDirectories path

end FileTree

end SignalReplay
