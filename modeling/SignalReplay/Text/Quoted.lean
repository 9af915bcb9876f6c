import SignalReplay.Text.Lowercase
import SignalReplay.Text.HiddenTable

/-!
Texts written between double quotes, as messages show the column names of a table. A quote, a
backslash and the common controls are escaped by a letter; any other character that would not
show is written by its code.
-/

namespace SignalReplay.Text

def isHidden (character : Char) : Bool :=
  if character.toNat < 0x80 then character.toNat < 0x20 || character.toNat == 0x7F
  else inRanges hiddenRanges character

def hexDigits (code : Nat) : List Char :=
  Nat.toDigits 16 code

def escapeCode (code : Nat) : List Char :=
  ['\\', 'u', '{'] ++ hexDigits code ++ ['}']

def quoteCharacter (character : Char) : List Char :=
  match character with
  | '"' => ['\\', '"']
  | '\\' => ['\\', '\\']
  | '\t' => ['\\', 't']
  | '\n' => ['\\', 'n']
  | '\r' => ['\\', 'r']
  | _ =>
    if character.toNat == 0 then ['\\', '0']
    else if isHidden character then escapeCode character.toNat
    else [character]

def quote (text : String) : String :=
  String.ofList (['"'] ++ text.toList.flatMap quoteCharacter ++ ['"'])

def quoteList (texts : List String) : String :=
  "[" ++ ", ".intercalate (texts.map quote) ++ "]"

end SignalReplay.Text
