import SignalReplay.Text.Blank
import SignalReplay.Text.Lowercase

/-!
Trade directions.
-/

namespace SignalReplay

inductive Direction
  | long
  | short
deriving DecidableEq, Repr

structure DirectionError where
  text : String
deriving DecidableEq, Repr

def DirectionError.message (error : DirectionError) : String :=
  s!"unknown direction '{error.text}' (expected long or short)"

namespace Direction

def text : Direction → String
  | .long => "long"
  | .short => "short"

def read (text : String) : Except DirectionError Direction :=
  match Text.lowercase (Text.trim text) with
  | "long" => .ok .long
  | "short" => .ok .short
  | other => .error ⟨other⟩

end Direction

end SignalReplay
