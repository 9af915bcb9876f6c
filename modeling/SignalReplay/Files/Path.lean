/-!
Paths of files as texts. Names are separated by slashes; an empty name and a single dot stand for
the place itself, and two dots for the directory around it.
-/

namespace SignalReplay.Path

def splitSlashes : List Char → List (List Char)
  | [] => [[]]
  | character :: rest =>
    if character == '/' then [] :: splitSlashes rest
    else
      match splitSlashes rest with
      | [] => [[character]]
      | part :: parts => (character :: part) :: parts

def names (path : String) : List String :=
  (splitSlashes path.toList).map String.ofList

example : splitSlashes ['a', '/', 'b', '/'] = [['a'], ['b'], []] := by decide

/-- A name that stands for the place itself. -/
def isIdle (name : String) : Bool :=
  name.isEmpty || name = "."

def join (directory name : String) : String :=
  if directory.isEmpty || directory.toList.getLast? = some '/' then directory ++ name
  else directory ++ "/" ++ name

/-- A list of names, last name first, and what is left of it when one name after the other is
taken away. Idle names go with the name before them. -/
def outward : List String → List (List String)
  | [] => []
  | name :: rest =>
    if isIdle name then outward rest else (name :: rest) :: outward rest

/-- A path, the path of the directory that holds it, and so on; the empty path ends the list and
is not in it. -/
def ancestors (path : String) : List String :=
  match names path with
  | first :: rest =>
    if path.isEmpty then []
    else
      let outer := (outward rest.reverse).map fun names => "/".intercalate (first :: names.reverse)
      path :: (outer ++ [first]).tail
  | [] => []

/-- A path from the root of all files, which lies in no tree of its own. -/
def isAbsolute (path : String) : Bool :=
  path.toList.head? = some '/'

def nullDevice : String := "/dev/null"

def greatestNameLength : Nat := 255

def greatestLength : Nat := 4095

end SignalReplay.Path
