import SignalReplay.Time.Scan

/-!
Timestamps of input records. A timestamp is read by a pattern; a written offset is taken off, a
time of day without an offset is universal time, and a date alone is its midnight.
-/

namespace SignalReplay

structure TimestampError where
  text : String
  pattern : String
  fault : TimeFault
deriving DecidableEq, Repr

def TimestampError.message (error : TimestampError) : String :=
  s!"invalid timestamp '{error.text}' for format '{error.pattern}': {error.fault.message}"

namespace Timestamp

def standardPattern : String := "%Y-%m-%d %H:%M:%S"

/-- The universal time of a time of day or, failing that, of a date's midnight. An offset that was
read is not applied here. -/
def withoutOffset (fields : TimeFields) : Except TimeFault Instant :=
  match fields.civil 0 with
  | .ok time => (Instant.ofCivil? time).elim (.error .outOfRange) .ok
  | .error fault =>
    match fields.date with
    | .ok date => (Instant.ofCivil? (.midnight date)).elim (.error fault) .ok
    | .error _ => .error fault

/-- The instant that the fields name: with their offset if that succeeds, and without it
otherwise. -/
def resolve (fields : TimeFields) : Except TimeFault Instant :=
  match fields.instant with
  | .ok instant => .ok instant
  | .error _ => withoutOffset fields

def read (pattern text : String) : Except TimestampError Instant :=
  let text := Text.trim text
  let result := do
    resolve (← TimeScan.fields (Pattern.ofText pattern.toList) text.toList)
  result.mapError fun fault => ⟨text, pattern, fault⟩

def readStandardForm? (text : String) : Option Instant :=
  match TimeScan.fields (PatternItem.standardForm ++ [.blanks]) text.toList with
  | .ok fields => fields.instant.toOption
  | .error _ => none

end Timestamp

end SignalReplay
