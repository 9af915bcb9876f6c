import SignalReplay.Decimal.Layout

/-!
JSON values and their written form. Objects keep the order of their members, so a record is
written in the order its fields are listed; `Value.ofMembers` sorts the members of an object that
was read.
-/

namespace SignalReplay.Json

def unsignedBound : Nat := 0x10000000000000000

/-- Negative whole numbers below the negative of this do not fit 64 bits with a sign. -/
def signedBound : Nat := 0x8000000000000000

inductive Number
  | whole (value : Int)
  | real (value : Float)
deriving DecidableEq

inductive Value
  | null
  | boolean (value : Bool)
  | number (value : Number)
  | string (value : String)
  | array (elements : List Value)
  | object (members : List (String × Value))

namespace Value

def real (value : Float) : Value :=
  .number (.real value)

def count (value : Nat) : Value :=
  .number (.whole value)

def optional (write : α → Value) (value : Option α) : Value :=
  (value.map write).getD .null

def insertMember (name : String) (value : Value) :
    List (String × Value) → List (String × Value)
  | [] => [(name, value)]
  | (other, present) :: rest =>
    if name = other then (name, value) :: rest
    else if name < other then (name, value) :: (other, present) :: rest
    else (other, present) :: insertMember name value rest

/-- The members sorted by name; of members with one name the last counts. -/
def sortMembers (members : List (String × Value)) : List (String × Value) :=
  members.foldl (fun sorted (name, value) => insertMember name value sorted) []

end Value

/-! ## Written form -/

/-- Numbers have a point from `0.00001` to below `10 ^ 16` and an exponent outside that, whose
plus sign is written; a tie goes to the even digit. -/
def numberLayout : Decimal.Layout where
  leastPositional := some (-5)
  greatestPositional := some 15
  wholeTail := ['.', '0']
  exponentPlus := true
  tie := .even

/-- A number that is not finite cannot be written and becomes null. -/
def Number.write : Number → String
  | .whole value => toString value
  | .real value => if value.isFinite then numberLayout.write value else "null"

/-- Quotes, backslashes and controls are escaped; everything else stands for itself. -/
def escapeCharacter (character : Char) : List Char :=
  match character with
  | '"' => ['\\', '"']
  | '\\' => ['\\', '\\']
  | '\n' => ['\\', 'n']
  | '\r' => ['\\', 'r']
  | '\t' => ['\\', 't']
  | _ =>
    let code := character.toNat
    if code = 0x8 then ['\\', 'b']
    else if code = 0xC then ['\\', 'f']
    else if code < 0x20 then
      ['\\', 'u', '0', '0', Nat.digitChar (code / 16), Nat.digitChar (code % 16)]
    else [character]

def writeString (text : String) : String :=
  String.ofList (['"'] ++ text.toList.flatMap escapeCharacter ++ ['"'])

namespace Value

mutual

def compact : Value → String
  | .null => "null"
  | .boolean value => if value then "true" else "false"
  | .number value => value.write
  | .string value => writeString value
  | .array elements => "[" ++ ",".intercalate (compactElements elements) ++ "]"
  | .object members => "\x7b" ++ ",".intercalate (compactMembers members) ++ "\x7d"

def compactElements : List Value → List String
  | [] => []
  | element :: rest => element.compact :: compactElements rest

def compactMembers : List (String × Value) → List String
  | [] => []
  | (name, value) :: rest => (writeString name ++ ":" ++ value.compact) :: compactMembers rest

end

def indentation (depth : Nat) : String :=
  String.ofList (List.replicate (2 * depth) ' ')

/-- Parts on lines of their own between brackets; nothing between brackets stays on one line. -/
def onLines (depth : Nat) (opening closing : String) (parts : List String) : String :=
  if parts.isEmpty then opening ++ closing
  else
    let line := "\n" ++ indentation (depth + 1)
    opening ++ line ++ ("," ++ line).intercalate parts ++ "\n" ++ indentation depth ++ closing

mutual

/-- The written form with one element or member a line, indented by two spaces a level. -/
def prettyAt (depth : Nat) : Value → String
  | .array elements => onLines depth "[" "]" (prettyElements (depth + 1) elements)
  | .object members => onLines depth "\x7b" "\x7d" (prettyMembers (depth + 1) members)
  | value => value.compact

def prettyElements (depth : Nat) : List Value → List String
  | [] => []
  | element :: rest => element.prettyAt depth :: prettyElements depth rest

def prettyMembers (depth : Nat) : List (String × Value) → List String
  | [] => []
  | (name, value) :: rest =>
    (writeString name ++ ": " ++ value.prettyAt depth) :: prettyMembers depth rest

end

def pretty (value : Value) : String :=
  value.prettyAt 0

end Value

end SignalReplay.Json
