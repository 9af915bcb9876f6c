import SignalReplay.Decimal.Basic

/-!
Scanning TOML text. A scanner takes something from the front of the characters and returns what
follows it; spaces and comments are passed over by functions that cannot fail.
-/

namespace SignalReplay.Toml

abbrev Scanner (α : Type) := List Char → Option (α × List Char)

namespace Scanner

/-- Scan one item after the other, up to the first place where there is none. An item takes at
least one character. -/
def repeated (item : Scanner α) (input : List Char) : List α × List Char :=
  match item input with
  | none => ([], input)
  | some (value, rest) =>
    if rest.length < input.length then
      let (values, last) := repeated item rest
      (value :: values, last)
    else ([], input)
termination_by input.length

def separated (separator : Char) (item : Scanner α) (input : List Char) : List α × List Char :=
  let next : Scanner α
    | [] => none
    | character :: rest => if character == separator then item rest else none
  match item input with
  | none => ([], input)
  | some (first, rest) =>
    let (values, last) := repeated next rest
    (first :: values, last)

def expect? (expected : Char) : List Char → Option (List Char)
  | [] => none
  | character :: rest => if character == expected then some rest else none

end Scanner

/-! ## Spacing -/

def isSpace (character : Char) : Bool :=
  character == ' ' || character == '\t'

def skipSpaces (input : List Char) : List Char :=
  input.dropWhile isSpace

def isPrintable (character : Char) : Bool :=
  let code := character.toNat
  code == 0x9 || (0x20 ≤ code && code != 0x7F)

def skipComment : List Char → List Char
  | '#' :: rest => rest.dropWhile isPrintable
  | input => input

def newline? : List Char → Option (List Char)
  | '\n' :: rest => some rest
  | '\r' :: '\n' :: rest => some rest
  | _ => none

def endOfLine? (input : List Char) : Option (List Char) :=
  match skipComment (skipSpaces input) with
  | [] => some []
  | rest => newline? rest

def gapPiece : Scanner Unit
  | [] => none
  | character :: rest =>
    if isSpace character then some ((), rest)
    else (newline? (skipComment (character :: rest))).map ((), ·)

def skipGap (input : List Char) : List Char :=
  (Scanner.repeated gapPiece input).2

/-! ## Digits -/

def groupedDigits? (isDigit : Char → Bool) : List Char → Option (List Char)
  | [] => none
  | [digit] => if isDigit digit then some [digit] else none
  | digit :: '_' :: rest =>
    if isDigit digit then (groupedDigits? isDigit rest).map (digit :: ·) else none
  | digit :: rest =>
    if isDigit digit then (groupedDigits? isDigit rest).map (digit :: ·) else none

example : groupedDigits? Decimal.isDigit ['1', '_', '0'] = some ['1', '0'] := by decide

example : groupedDigits? Decimal.isDigit ['1', '_'] = none := by decide

def hexValue? (character : Char) : Option Nat :=
  if '0' ≤ character && character ≤ '9' then some (character.toNat - '0'.toNat)
  else if 'a' ≤ character && character ≤ 'f' then some (character.toNat - 'a'.toNat + 10)
  else if 'A' ≤ character && character ≤ 'F' then some (character.toNat - 'A'.toNat + 10)
  else none

def valueInBase? (base : Nat) (digits : List Char) : Option Nat :=
  digits.foldlM (fun value digit => do
    let digit ← hexValue? digit
    if digit < base then some (base * value + digit) else none) 0

end SignalReplay.Toml
