/-!
Lines of a byte list.
-/

namespace SignalReplay.Text

def lineFeed : UInt8 := 0xA

def carriageReturn : UInt8 := 0xD

/-- Split at every line feed. Nothing after the last line feed is no line. -/
def splitLines : List UInt8 → List (List UInt8)
  | [] => []
  | byte :: rest =>
    if byte == lineFeed then [] :: splitLines rest
    else
      match splitLines rest with
      | [] => [[byte]]
      | line :: lines => (byte :: line) :: lines

example : splitLines [0x61, 0xA, 0xA, 0x62] = [[0x61], [], [0x62]] := by decide

example : splitLines [0x61, 0xA] = [[0x61]] := by decide

def dropReturn : List UInt8 → List UInt8
  | [] => []
  | [byte] => if byte == carriageReturn then [] else [byte]
  | byte :: next :: rest => byte :: dropReturn (next :: rest)

def lines (bytes : List UInt8) : List (List UInt8) :=
  (splitLines bytes).map dropReturn

end SignalReplay.Text
