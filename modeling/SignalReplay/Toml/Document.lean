import SignalReplay.Toml.Scalar

/-!
TOML documents. A document is a list of statements; the table it stands for is built from them one
after the other, each in the table that the last header opened.
-/

namespace SignalReplay.Toml

/-! ## Values -/

def bracketed (value : Scanner Value) : Scanner Value :=
  fun input => do
    let element : Scanner Value := fun input =>
      (value (skipGap input)).map fun (found, rest) => (found, skipGap rest)
    let (elements, rest) := Scanner.separated ',' element input
    let rest := if elements.isEmpty then rest else (Scanner.expect? ',' rest).getD rest
    return (.array elements, ← Scanner.expect? ']' (skipGap rest))

def keyAndValue (value : Scanner Value) : Scanner (List String × Value) :=
  fun input => do
    let (key, rest) ← key input
    let (found, rest) ← value (skipSpaces (← Scanner.expect? '=' rest))
    return ((key, found), skipSpaces rest)

def braced (value : Scanner Value) : Scanner Value :=
  fun input => do
    let (pairs, rest) := Scanner.separated ',' (keyAndValue value) input
    let rest ← Scanner.expect? '\x7d' (skipSpaces rest)
    let empty : Members := []
    let members ← pairs.foldlM (fun members (key, found) => Members.assign? found key members) empty
    return (.table .braced members, rest)

def value (depth : Nat) : Scanner Value
  | [] => none
  | character :: rest =>
    if character == '"' || character == '\'' then
      (string (character :: rest)).map fun (content, rest) => (.string content, rest)
    else
      match depth with
      | 0 => scalar (character :: rest)
      | depth + 1 =>
        if character == '[' then bracketed (value depth) rest
        else if character == '\x7b' then braced (value depth) rest
        else scalar (character :: rest)

/-! ## Statements -/

inductive Statement
  | header (path : List String)
  | repeatedHeader (path : List String)
  | assignment (key : List String) (value : Value)
  /-- A line with nothing but spaces and a comment. -/
  | nothing

def closeHeader (brackets : Nat) (input : List Char) : Option (List Char) :=
  match brackets with
  | 0 => some input
  | brackets + 1 => (Scanner.expect? ']' input).bind (closeHeader brackets)

def statement : Scanner Statement :=
  fun input =>
    match skipSpaces input with
    | '[' :: '[' :: rest => do
      let (path, rest) ← key rest
      return (.repeatedHeader path, ← endOfLine? (← closeHeader 2 rest))
    | '[' :: rest => do
      let (path, rest) ← key rest
      return (.header path, ← endOfLine? (← closeHeader 1 rest))
    | rest =>
      match endOfLine? rest with
      | some rest => some (.nothing, rest)
      | none => do
        let ((key, found), rest) ← keyAndValue (value greatestDepth) rest
        return (.assignment key found, ← endOfLine? rest)

/-! ## Documents -/

/-- A document of which a part has been read: the root table and the path of the table that the
last header opened. -/
structure Reading where
  root : Members := []
  path : List String := []

def Reading.step? (reading : Reading) : Statement → Option Reading
  | .nothing => some reading
  | .header path => do
    return ⟨← Members.openTable? path reading.root, path⟩
  | .repeatedHeader path => do
    return ⟨← Members.openNext? path reading.root, path⟩
  | .assignment key value => do
    let root ←
      if reading.path.isEmpty then Members.assign? value key reading.root
      else Members.assignWithin? value key reading.path reading.root
    return { reading with root }

def withoutMark : List Char → List Char
  | character :: rest => if character.toNat = 0xFEFF then rest else character :: rest
  | [] => []

def ofText? (text : String) : Option Members := do
  let (statements, rest) := Scanner.repeated statement (withoutMark text.toList)
  if rest.isEmpty then
    return (← statements.foldlM Reading.step? {}).root
  else none

end SignalReplay.Toml
