import SignalReplay.Command.Basic
import SignalReplay.Text.Names

/-!
Commands as lists of arguments. The first argument names the command; every other one is an
option, whose value follows it or stands behind an equals sign. No option may be given twice.
-/

namespace SignalReplay

abbrev GivenOption := String × String

namespace Arguments

/-- An argument that looks like an option cannot be the value of one. -/
def looksLikeOption (argument : String) : Bool :=
  match argument.toList with
  | '-' :: _ :: _ => true
  | _ => false

def option? (argument : String) : Option (String × Option String) :=
  match argument.toList with
  | '-' :: '-' :: body =>
    let name := String.ofList (body.takeWhile (· != '='))
    match body.dropWhile (· != '=') with
    | [] => some (name, none)
    | _ :: value => some (name, some (String.ofList value))
  | _ => none

def ending : String := "--"

def options? (known : List String) : List String → Option (List GivenOption)
  | [] => some []
  | argument :: rest =>
    if argument = ending then
      if rest.isEmpty then some [] else none
    else
      match option? argument, rest with
      | none, _ => none
      | some (name, some value), rest => do
        if known.contains name then
          return (name, value) :: (← options? known rest)
        else none
      | some (name, none), value :: rest => do
        if known.contains name && !looksLikeOption value then
          return (name, value) :: (← options? known rest)
        else none
      | some (_, none), [] => none

/-- Options that may each be given once. Those for a path must not be empty. -/
def read? (paths texts : List String) (arguments : List String) :
    Option (List GivenOption) := do
  let given ← options? (paths ++ texts) arguments
  let emptyPath := given.any fun (name, value) => paths.contains name && value.isEmpty
  if emptyPath || Text.repeats (given.map Prod.fst) then none else some given

def value? (given : List GivenOption) (name : String) : Option String :=
  (given.find? (·.1 = name)).map Prod.snd

end Arguments

namespace TagOptions

def ofArguments? (arguments : List String) : Option TagOptions := do
  let given ← Arguments.read? ["candles", "signals", "out"] ["timestamp-format", "tie-break"]
    arguments
  let value (name : String) := Arguments.value? given name
  return {
    candles := ← value "candles"
    signals := ← value "signals"
    pattern := (value "timestamp-format").getD Timestamp.standardPattern
    tieBreak := (value "tie-break").getD TieBreak.loss.text
    out := value "out" }

end TagOptions

namespace ReportOptions

def ofArguments? (arguments : List String) : Option ReportOptions := do
  let given ← Arguments.read? ["config", "candles", "signals", "output-dir"] [] arguments
  let value (name : String) := Arguments.value? given name
  return {
    configuration := value "config"
    candles := value "candles"
    signals := value "signals"
    directory := value "output-dir" }

end ReportOptions

namespace Command

def ofArguments? : List String → Option Command
  | "tag" :: arguments => (TagOptions.ofArguments? arguments).map .tag
  | "report" :: arguments => (ReportOptions.ofArguments? arguments).map .report
  | _ => none

end Command

end SignalReplay
