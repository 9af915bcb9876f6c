import SignalReplay.Market.Series
import SignalReplay.Outcome.Basic
import SignalReplay.Signal.Basic
import SignalReplay.Text.Blank

/-!
Tagging: the replay of a signal over the candles after it. The first candle that touches the stop
or the target ends the replay, with a loss if it touches the stop; until then the greatest moves
against and in favour of the trade are kept in units of risk.
-/

namespace SignalReplay

/-! ## Tie-break -/

/-- What a candle that touches both stop and target counts as. A candle does not tell which was
touched first, so only the cautious rule exists. -/
inductive TieBreak
  | loss
deriving DecidableEq, Repr

inductive TieBreakError
  | unsupported (text : String)
  | unknown (text : String)
deriving DecidableEq, Repr

def TieBreakError.message : TieBreakError → String
  | .unsupported text => s!"tie-break '{text}' is not supported (only 'loss' is implemented)"
  | .unknown text => s!"unknown tie-break '{text}'"

namespace TieBreak

def text : TieBreak → String
  | .loss => "loss"

def read (text : String) : Except TieBreakError TieBreak :=
  match Text.lowercase (Text.trim text) with
  | "loss" | "sl" | "stop" => .ok .loss
  | "win" | "tp" | "target" => .error (.unsupported text)
  | _ => .error (.unknown text)

end TieBreak

/-! ## Excursions -/

/-- The greater of two numbers. Where one is missing it is the other. -/
def greater (left right : Float) : Float :=
  if left.isNaN then right
  else if right.isNaN then left
  else if left < right then right
  else left

/-- The greatest moves so far, in units of risk. Both begin at zero and only grow. -/
structure Excursion where
  adverse : Float := 0.0
  favourable : Float := 0.0

namespace Excursion

def below? (signal : Signal) (candle : Candle) : Option Float :=
  if candle.low.value < signal.entry.value then some (signal.entry.value - candle.low.value)
  else none

def above? (signal : Signal) (candle : Candle) : Option Float :=
  if signal.entry.value < candle.high.value then some (candle.high.value - signal.entry.value)
  else none

def adverse? (signal : Signal) (candle : Candle) : Option Float :=
  match signal.direction with
  | .long => below? signal candle
  | .short => above? signal candle

def favourable? (signal : Signal) (candle : Candle) : Option Float :=
  match signal.direction with
  | .long => above? signal candle
  | .short => below? signal candle

def extend (known : Float) (risk : Float) : Option Float → Float
  | none => known
  | some distance => greater known (distance / risk)

def update (excursion : Excursion) (signal : Signal) (candle : Candle) : Excursion where
  adverse := extend excursion.adverse signal.risk.value (adverse? signal candle)
  favourable := extend excursion.favourable signal.risk.value (favourable? signal candle)

/-- A move that never left zero is not reported. -/
def reported (move : Float) : Option Float :=
  if move == 0.0 then none else some move

end Excursion

/-! ## Replay -/

namespace Signal

def touchesStop (signal : Signal) (candle : Candle) : Bool :=
  match signal.direction with
  | .long => candle.low.value ≤ signal.stop.value
  | .short => signal.stop.value ≤ candle.high.value

def touchesTarget (signal : Signal) (candle : Candle) : Bool :=
  match signal.direction with
  | .long => signal.target.value ≤ candle.high.value
  | .short => candle.low.value ≤ signal.target.value

def unresolved (signal : Signal) (excursion : Excursion) : Outcome where
  signalId := signal.id
  label := .unknown
  rMultiple := none
  adverse := Excursion.reported excursion.adverse
  favourable := Excursion.reported excursion.favourable
  exitPrice := none
  exitTime := none

/-- A loss leaves exactly at the stop, which is one unit of risk. -/
def lost (signal : Signal) (candle : Candle) (excursion : Excursion) : Outcome :=
  { signal.unresolved excursion with
    label := .loss
    rMultiple := some (.ofFloat (-1.0))
    exitPrice := some signal.stop.value
    exitTime := some candle.timestamp }

def won (signal : Signal) (candle : Candle) (excursion : Excursion) : Outcome :=
  { signal.unresolved excursion with
    label := .win
    rMultiple := some (signal.reward / signal.risk)
    exitPrice := some signal.target.value
    exitTime := some candle.timestamp }

def replay (signal : Signal) (tieBreak : TieBreak) (excursion : Excursion) :
    List Candle → Outcome
  | [] => signal.unresolved excursion
  | candle :: rest =>
    let excursion := excursion.update signal candle
    match signal.touchesStop candle, signal.touchesTarget candle, tieBreak with
    | true, _, .loss => signal.lost candle excursion
    | false, true, _ => signal.won candle excursion
    | false, false, _ => signal.replay tieBreak excursion rest

def tag (signal : Signal) (series : CandleSeries) (tieBreak : TieBreak) : Outcome :=
  signal.replay tieBreak {} (series.after signal.timestamp)

end Signal

def tagAll (signals : List Signal) (series : CandleSeries) (tieBreak : TieBreak) :
    List Outcome :=
  signals.map fun signal => signal.tag series tieBreak

end SignalReplay
