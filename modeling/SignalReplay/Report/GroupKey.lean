import SignalReplay.Signal.Basic

/-!
Group keys: what the signals of one report group have in common.
-/

namespace SignalReplay

instance : Ord Direction where
  compare
    | .long, .short => .lt
    | .short, .long => .gt
    | _, _ => .eq

structure GroupKey where
  symbol : String
  timeframe : String
  session : Option String
  kind : Option String
  direction : Direction
deriving DecidableEq, Repr

namespace GroupKey

/-- Keys are compared field by field. Texts go by their characters, a missing text comes first,
and long comes before short. -/
instance : Ord GroupKey where
  compare left right :=
    (compare left.symbol right.symbol).then <|
    (compare left.timeframe right.timeframe).then <|
    (compare left.session right.session).then <|
    (compare left.kind right.kind).then <|
    compare left.direction right.direction

def ofSignal (signal : Signal) : GroupKey where
  symbol := signal.symbol
  timeframe := signal.timeframe
  session := signal.session
  kind := signal.kind
  direction := signal.direction

def shown (text : Option String) : String :=
  text.getD "-"

def toText (key : GroupKey) : String :=
  "/".intercalate
    [key.symbol, key.timeframe, shown key.session, shown key.kind, key.direction.text]

example : compare (none : Option String) (some "") = .lt := by decide

end GroupKey

end SignalReplay
