/-!
TOML values. A table remembers how it came about, since that decides whether later lines may add
to it.
-/

namespace SignalReplay.Toml

inductive TableForm
  /-- Written between braces, which nothing adds to. -/
  | braced
  /-- Opened by a header of its own. -/
  | headed
  /-- Named only inside the header of another table. -/
  | implied
  /-- Named inside a dotted key. -/
  | dotted
deriving DecidableEq, Repr

inductive Value
  | string (content : String)
  | whole (value : Int)
  | real (value : Float)
  | boolean (value : Bool)
  /-- A date, a time of day or both. -/
  | moment
  /-- Written between brackets. -/
  | array (elements : List Value)
  | table (form : TableForm) (members : List (String × Value))
  /-- Tables opened by one repeated header; the last of them is open. -/
  | tables (earlier : List (List (String × Value))) (last : List (String × Value))

abbrev Members := List (String × Value)

namespace Members

def find? (members : Members) (name : String) : Option Value :=
  (List.find? (fun (other, _) => other = name) members).map Prod.snd

def replace (members : Members) (name : String) (value : Value) : Members :=
  members.map fun (other, present) => if other = name then (other, value) else (other, present)

def add (members : Members) (name : String) (value : Value) : Members :=
  members ++ [(name, value)]

/-! ## Dotted keys -/

/-- Give a value to a dotted key. Tables on the way must have been named inside dotted keys
before; only above the innermost of them may they also have been named inside headers. -/
def assign? (value : Value) : List String → Members → Option Members
  | [], _ => none
  | [name], members =>
    match find? members name with
    | none => some (members.add name value)
    | some _ => none
  | name :: next :: path, members =>
    match find? members name with
    | none => do
      return members.add name (.table .dotted (← assign? value (next :: path) []))
    | some (.table .dotted inner) => do
      return members.replace name (.table .dotted (← assign? value (next :: path) inner))
    | some (.table .implied inner) =>
      if path.isEmpty then none
      else do
        return members.replace name (.table .implied (← assign? value (next :: path) inner))
    | some (.tables earlier last) =>
      if path.isEmpty then none
      else do
        return members.replace name (.tables earlier (← assign? value (next :: path) last))
    | some _ => none

/-! ## Headers -/

/-- Change the innermost table of a path, going through the last table of repeated headers. Tables
that are missing on the way are implied. -/
def modify? (change : String → Members → Option Members) : List String → Members → Option Members
  | [], _ => none
  | [name], members => change name members
  | name :: path, members =>
    match find? members name with
    | none => do
      return members.add name (.table .implied (← modify? change path []))
    | some (.table form inner) =>
      if form = .braced then none
      else do
        return members.replace name (.table form (← modify? change path inner))
    | some (.tables earlier last) => do
      return members.replace name (.tables earlier (← modify? change path last))
    | some _ => none

/-- Open the table of a header, which must be new or implied. -/
def openTable? : List String → Members → Option Members :=
  modify? fun name members =>
    match members.find? name with
    | none => some (members.add name (.table .headed []))
    | some (.table .implied inner) => some (members.replace name (.table .headed inner))
    | some _ => none

def openNext? : List String → Members → Option Members :=
  modify? fun name members =>
    match members.find? name with
    | none => some (members.add name (.tables [] []))
    | some (.tables earlier last) =>
      some (members.replace name (.tables (earlier ++ [last]) []))
    | some _ => none

def assignWithin? (value : Value) (key : List String) : List String → Members → Option Members :=
  modify? fun name members =>
    match members.find? name with
    | some (.table form inner) => do
      return members.replace name (.table form (← assign? value key inner))
    | some (.tables earlier last) => do
      return members.replace name (.tables earlier (← assign? value key last))
    | _ => none

end Members

end SignalReplay.Toml
