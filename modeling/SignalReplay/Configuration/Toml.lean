import SignalReplay.Configuration.Basic
import SignalReplay.Text.Utf8
import SignalReplay.Toml.Document

/-!
Configurations as TOML. A section is a table, in which unknown settings are passed over, or an
array of its settings in order; what is left out has its standard value.
-/

namespace SignalReplay

abbrev Section := String → Option Toml.Value

namespace Section

/-- The settings at the front of an array. What lies behind them is passed over. -/
def ofArray (names : List String) (elements : List Toml.Value) : Section :=
  Toml.Members.find? (names.zip elements)

/-- A moment is a section that gives nothing. -/
def ofValue? (names : List String) : Toml.Value → Option Section
  | .table _ members => some (Toml.Members.find? members)
  | .array elements => some (ofArray names elements)
  | .tables earlier last =>
    some (ofArray names ((earlier ++ [last]).map (.table .headed)))
  | .moment => some fun _ => none
  | _ => none

def string? : Toml.Value → Option String
  | .string content => some content
  | _ => none

def count? : Toml.Value → Option Nat
  | .whole value => if 0 ≤ value then some value.toNat else none
  | _ => none

def float? : Toml.Value → Option Float
  | .whole value => some (Decimal.ofWhole value).toFloat
  | .real value => some value
  | _ => none

def floats? : Toml.Value → Option (List Float)
  | .array elements => elements.mapM float?
  | _ => none

def orDefault (given : Section) (name : String) (standard : α) (read : Toml.Value → Option α) :
    Option α :=
  match given name with
  | none => some standard
  | some value => read value

end Section

namespace DataSettings

def ofToml? (value : Toml.Value) : Option DataSettings := do
  let given ← Section.ofValue? ["candles", "signals", "timestamp_format"] value
  let standard : DataSettings := {}
  let path (value : Toml.Value) := (Section.string? value).map some
  return {
    candles := ← given.orDefault "candles" standard.candles path
    signals := ← given.orDefault "signals" standard.signals path
    pattern := ← given.orDefault "timestamp_format" standard.pattern Section.string? }

end DataSettings

namespace TaggingSettings

def ofToml? (value : Toml.Value) : Option TaggingSettings := do
  let given ← Section.ofValue? ["tie_break", "threads"] value
  let standard : TaggingSettings := {}
  return {
    tieBreak := ← given.orDefault "tie_break" standard.tieBreak Section.string?
    threads := ← given.orDefault "threads" standard.threads Section.count? }

end TaggingSettings

namespace ReportSettings

def ofToml? (value : Toml.Value) : Option ReportSettings := do
  let given ← Section.ofValue?
    ["output_dir", "histogram_negative_edges", "histogram_positive_edges"] value
  let standard : ReportSettings := {}
  return {
    directory := ← given.orDefault "output_dir" standard.directory Section.string?
    negativeEdges :=
      ← given.orDefault "histogram_negative_edges" standard.negativeEdges Section.floats?
    positiveEdges :=
      ← given.orDefault "histogram_positive_edges" standard.positiveEdges Section.floats? }

end ReportSettings

namespace Configuration

def ofMembers? (members : Toml.Members) : Option Configuration := do
  let given : Section := members.find?
  return {
    data := ← given.orDefault "data" {} DataSettings.ofToml?
    tagging := ← given.orDefault "tagging" {} TaggingSettings.ofToml?
    report := ← given.orDefault "report" {} ReportSettings.ofToml? }

def ofToml (text : String) : Except ConfigurationError Configuration :=
  match (Toml.ofText? text).bind ofMembers? with
  | none => .error .notToml
  | some configuration => do
    configuration.check
    return configuration

end Configuration

end SignalReplay
