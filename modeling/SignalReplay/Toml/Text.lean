import SignalReplay.Toml.Scan

/-!
TOML strings: between quotes with escapes, between apostrophes without them, and each of the two
on one line or, with the mark tripled, on several.
-/

namespace SignalReplay.Toml

/-- Which mark encloses a string; only between quotes does a backslash escape. -/
inductive Mark
  | quote
  | apostrophe
deriving DecidableEq, Repr

namespace Mark

def character : Mark → Char
  | .quote => '"'
  | .apostrophe => '\''

def isPlain (mark : Mark) (character : Char) : Bool :=
  isPrintable character && character != mark.character &&
    (mark == .apostrophe || character != '\\')

end Mark

/-! ## Escapes -/

def codeEscape (digits : Nat) : Scanner Char :=
  fun input => do
    let spelled := input.take digits
    let code ← valueInBase? 16 spelled
    if spelled.length = digits && code.isValidChar then
      some (Char.ofNat code, input.drop digits)
    else none

def escape : Scanner Char
  | 'b' :: rest => some (Char.ofNat 0x8, rest)
  | 't' :: rest => some ('\t', rest)
  | 'n' :: rest => some ('\n', rest)
  | 'f' :: rest => some (Char.ofNat 0xC, rest)
  | 'r' :: rest => some ('\r', rest)
  | '"' :: rest => some ('"', rest)
  | '\\' :: rest => some ('\\', rest)
  | 'u' :: rest => codeEscape 4 rest
  | 'U' :: rest => codeEscape 8 rest
  | _ => none

/-! ## Strings on one line -/

def linePiece (mark : Mark) : Scanner (List Char) :=
  fun input =>
    match input.takeWhile mark.isPlain, input with
    | [], '\\' :: rest =>
      if mark = .quote then (escape rest).map fun (character, rest) => ([character], rest)
      else none
    | [], _ => none
    | run, _ => some (run, input.dropWhile mark.isPlain)

def lineString (mark : Mark) : Scanner String :=
  fun input => do
    let (pieces, rest) := Scanner.repeated (linePiece mark) input
    return (String.ofList pieces.flatten, ← Scanner.expect? mark.character rest)

/-! ## Strings on several lines -/

/-- A backslash at the end of a line joins it to the next text. -/
def lineJoin? (input : List Char) : Option (List Char) :=
  (newline? (skipSpaces input)).map fun rest =>
    (Scanner.repeated
      (fun
        | [] => none
        | character :: rest =>
          if isSpace character then some ((), rest)
          else (newline? (character :: rest)).map ((), ·)) rest).2

/-- A piece of a string on one line, a line break, a joined line or up to two marks. -/
def blockPiece (mark : Mark) : Scanner (List Char) :=
  fun input =>
    match linePiece mark input with
    | some piece => some piece
    | none =>
      match newline? input, input with
      | some rest, _ => some (['\n'], rest)
      | none, '\\' :: rest => if mark = .quote then (lineJoin? rest).map ([], ·) else none
      | none, _ =>
        let marks := input.takeWhile (· == mark.character)
        if marks.isEmpty || 2 < marks.length then none
        else some (marks, input.dropWhile (· == mark.character))

/-- Three marks that close a string, after up to two that belong to it. -/
def blockEnd (mark : Mark) : Scanner (List Char) :=
  fun input =>
    let marks := (input.takeWhile (· == mark.character)).take 5
    if marks.length < 3 then none else some (marks.drop 3, input.drop marks.length)

/-- A string on several lines, after its opening marks. A line break right after them does not
count. -/
def blockString (mark : Mark) : Scanner String :=
  fun input => do
    let (pieces, rest) := Scanner.repeated (blockPiece mark) ((newline? input).getD input)
    let (last, rest) ← blockEnd mark rest
    return (String.ofList (pieces.flatten ++ last), rest)

def string : Scanner String
  | '"' :: '"' :: '"' :: rest => blockString .quote rest
  | '\'' :: '\'' :: '\'' :: rest => blockString .apostrophe rest
  | '"' :: rest => lineString .quote rest
  | '\'' :: rest => lineString .apostrophe rest
  | _ => none

/-! ## Keys -/

def isBareKeyCharacter (character : Char) : Bool :=
  character.isAlphanum || character == '-' || character == '_'

def simpleKey : Scanner String
  | '"' :: rest => lineString .quote rest
  | '\'' :: rest => lineString .apostrophe rest
  | input =>
    match input.takeWhile isBareKeyCharacter with
    | [] => none
    | key => some (String.ofList key, input.dropWhile isBareKeyCharacter)

def greatestDepth : Nat := 79

def key : Scanner (List String) :=
  fun input =>
    let part : Scanner String := fun input =>
      (simpleKey (skipSpaces input)).map fun (name, rest) => (name, skipSpaces rest)
    let (parts, rest) := Scanner.separated '.' part input
    if parts.isEmpty || greatestDepth < parts.length then none else some (parts, rest)

end SignalReplay.Toml
