import SignalReplay.Decimal.Quantity
import SignalReplay.Json.Node
import SignalReplay.Text.Names

/-!
Reading typed data from JSON trees. A record may be written as an object, in which unknown members
are passed over and a known one must not be repeated, or as an array with one element for each
field in order.
-/

namespace SignalReplay.Json

abbrev Reader (α : Type) := Node → Option α

namespace Reader

def text : Reader String
  | .string content => content
  | _ => none

def number : Reader Number
  | .number numeral => numeral.number?
  | _ => none

def real : Reader Float :=
  fun node => (number node).map Number.toFloat

def quantity : Reader Quantity :=
  fun node => (real node).map Quantity.ofFloat

def below (bound : Nat) : Reader Nat :=
  fun node =>
    match number node with
    | some (.whole value) =>
      if 0 ≤ value && value < bound then some value.toNat else none
    | _ => none

def count : Reader Nat :=
  below unsignedBound

def orNull (read : Reader α) : Reader (Option α)
  | .null => some none
  | node => (read node).map some

def list (read : Reader α) : Reader (List α)
  | .array elements => elements.mapM read
  | _ => none

/-- One of some names, written as a text or as an object whose only member has that name and the
value null. -/
def name (names : List (String × α)) : Reader α :=
  let find (written : Option String) : Option α :=
    (names.find? fun (known, _) => written = some known).map Prod.snd
  fun node =>
    match node with
    | .string content => find content
    | .object [(written, .null)] => find written
    | _ => none

def members (depth : Nat) : Reader (List (String × Value)) :=
  fun node =>
    match node.toValue? depth with
    | some (.object found) => some found
    | _ => none

end Reader

structure Record where
  found : List (String × Node)
  /-- Whether the record was written as an array, where a field that may be null must still be
  given. -/
  isArray : Bool

namespace Record

def read? (names : List String) : Node → Option Record
  | .object members => do
    let named ← members.mapM fun (name, node) => name.map (·, node)
    let known := named.filter fun (name, _) => names.contains name
    if Text.repeats (known.map Prod.fst) then none else some ⟨known, false⟩
  | .array elements =>
    if elements.length ≤ names.length then some ⟨names.zip elements, true⟩ else none
  | _ => none

def field? (record : Record) (name : String) : Option Node :=
  (record.found.find? (·.1 = name)).map Prod.snd

def required (record : Record) (name : String) (read : Reader α) : Option α := do
  read (← record.field? name)

/-- A field that may be null, and may be left out of an object. -/
def nullable (record : Record) (name : String) (read : Reader α) : Option (Option α) :=
  match record.field? name with
  | none => if record.isArray then none else some none
  | some node => read.orNull node

def orDefault (record : Record) (name : String) (default : α) (read : Reader α) : Option α :=
  match record.field? name with
  | none => some default
  | some node => read node

end Record

end SignalReplay.Json
