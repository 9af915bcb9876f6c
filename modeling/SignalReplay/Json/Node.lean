import SignalReplay.Json.Token

/-!
The tree of a JSON text. A machine takes one token at a time; what it still awaits is a stack of
unfinished arrays and objects, so no text is too deep for it. A tree becomes a `Value` only if its
numbers and strings can be represented and it is not nested too deeply.
-/

namespace SignalReplay.Json

/-- A JSON text without its spacing. Members keep their order and may repeat a name. -/
inductive Node
  | null
  | boolean (value : Bool)
  | number (numeral : Numeral)
  | string (content : Option String)
  | array (elements : List Node)
  | object (members : List (Option String × Node))

/-- An unfinished array or object around the current place, with its parts in reverse. An object
also holds the name whose value is awaited. -/
inductive Frame
  | array (before : List Node)
  | object (before : List (Option String × Node)) (name : Option String)

inductive Awaiting
  | valueNext (frames : List Frame)
  | elementOrEnd (frames : List Frame)
  | memberOrEnd (frames : List Frame)
  | nameNext (before : List (Option String × Node)) (frames : List Frame)
  | colonNext (before : List (Option String × Node)) (name : Option String) (frames : List Frame)
  | afterElement (before : List Node) (frames : List Frame)
  | afterMember (before : List (Option String × Node)) (frames : List Frame)
  | nothing (root : Node)

namespace Awaiting

def complete (node : Node) : List Frame → Awaiting
  | [] => .nothing node
  | .array before :: frames => .afterElement (node :: before) frames
  | .object before name :: frames => .afterMember ((name, node) :: before) frames

def begin? (frames : List Frame) : Token → Option Awaiting
  | .null => some (complete .null frames)
  | .boolean value => some (complete (.boolean value) frames)
  | .number numeral => some (complete (.number numeral) frames)
  | .string content => some (complete (.string content) frames)
  | .openArray => some (.elementOrEnd frames)
  | .openObject => some (.memberOrEnd frames)
  | _ => none

def step? : Awaiting → Token → Option Awaiting
  | .valueNext frames, token => begin? frames token
  | .elementOrEnd frames, .closeArray => some (complete (.array []) frames)
  | .elementOrEnd frames, token => begin? (.array [] :: frames) token
  | .memberOrEnd frames, .closeObject => some (complete (.object []) frames)
  | .memberOrEnd frames, .string name => some (.colonNext [] name frames)
  | .nameNext before frames, .string name => some (.colonNext before name frames)
  | .colonNext before name frames, .colon => some (.valueNext (.object before name :: frames))
  | .afterElement before frames, .comma => some (.valueNext (.array before :: frames))
  | .afterElement before frames, .closeArray =>
    some (complete (.array before.reverse) frames)
  | .afterMember before frames, .comma => some (.nameNext before frames)
  | .afterMember before frames, .closeObject =>
    some (complete (.object before.reverse) frames)
  | _, _ => none

end Awaiting

namespace Node

def ofTokens? (tokens : List Token) : Option Node := do
  match ← tokens.foldlM Awaiting.step? (.valueNext []) with
  | .nothing root => some root
  | _ => none

def ofText? (text : String) : Option Node := do
  ofTokens? (← Token.ofText text.toList)

end Node

/-! ## Values -/

def greatestDepth : Nat := 127

/-- A whole numeral within 64 bits stays whole; the whole numeral `-0` and all others become
floating-point numbers, which must be finite. -/
def Numeral.number? (numeral : Numeral) : Option Number :=
  let digits := numeral.decimal.digits
  if numeral.isWhole && !numeral.decimal.negative && digits < unsignedBound then
    some (.whole digits)
  else if numeral.isWhole && numeral.decimal.negative && digits ≠ 0 && digits ≤ signedBound then
    some (.whole (-(digits : Int)))
  else
    let value := numeral.decimal.toFloat
    if value.isFinite then some (.real value) else none

def Number.toFloat : Number → Float
  | .whole value => (Decimal.ofWhole value).toFloat
  | .real value => value

namespace Node

mutual

def toValue? (depth : Nat) : Node → Option Value
  | .null => some .null
  | .boolean value => some (.boolean value)
  | .number numeral => numeral.number?.map .number
  | .string content => content.map .string
  | .array elements =>
    match depth with
    | 0 => none
    | depth + 1 => (toValues? depth elements).map .array
  | .object members =>
    match depth with
    | 0 => none
    | depth + 1 => (toMembers? depth members).map fun found => .object (Value.sortMembers found)

def toValues? (depth : Nat) : List Node → Option (List Value)
  | [] => some []
  | element :: rest => do
    let value ← element.toValue? depth
    return value :: (← toValues? depth rest)

def toMembers? (depth : Nat) : List (Option String × Node) → Option (List (String × Value))
  | [] => some []
  | (name, node) :: rest => do
    let name ← name
    let value ← node.toValue? depth
    return (name, value) :: (← toMembers? depth rest)

end

end Node

def Value.ofText? (text : String) : Option Value := do
  (← Node.ofText? text).toValue? greatestDepth

def member? (members : List (String × Value)) (name : String) : Option Value :=
  (members.find? (·.1 = name)).map Prod.snd

end SignalReplay.Json
