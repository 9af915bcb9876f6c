import SignalReplay.Decimal.Rounding
import SignalReplay.Outcome.Basic

/-!
Figures about a list of outcomes. There are two readings of how a trade ended, which outcomes from
other sources need not agree on: by its label, and by the sign of its R-multiple. Nothing here
changes the order of the outcomes, so figures that depend on order see them as they come.
-/

namespace SignalReplay.Metrics

/-! ## Sums and means -/

/-- The sum from left to right. A sum of nothing is negative zero, which adds nothing to any
number. -/
def sum (values : List Float) : Float :=
  values.foldl (· + ·) (-0.0)

def mean (values : List Float) : Float :=
  if values.isEmpty then 0.0 else sum values / Float.ofNat values.length

def meanQuantity (values : List Quantity) : Quantity :=
  if values.isEmpty then .ofFloat 0.0
  else values.foldl (· + ·) (.ofFloat (-0.0)) / .ofFloat (Float.ofNat values.length)

theorem value_foldl_add (start : Quantity) (values : List Quantity) :
    (values.foldl (· + ·) start).value = (values.map (·.value)).foldl (· + ·) start.value := by
  induction values generalizing start with
  | nil => rfl
  | cons first rest induction => simp [induction]

@[simp]
theorem value_meanQuantity (values : List Quantity) :
    (meanQuantity values).value = mean (values.map (·.value)) := by
  unfold meanQuantity mean
  cases values with
  | nil => rfl
  | cons first rest =>
    simp only [List.isEmpty_cons, List.map_cons, List.length_cons, List.length_map,
      Bool.false_eq_true, if_false, Quantity.value_div, Quantity.value_ofFloat, sum]
    rw [value_foldl_add]
    rfl

/-- The mean, or nothing if there is nothing to take it of. This sum begins at zero. -/
def meanPresent (values : List Float) : Option Float :=
  if values.isEmpty then none
  else some (values.foldl (· + ·) 0.0 / Float.ofNat values.length)

def rate (part whole : Nat) : Float :=
  if whole = 0 then 0.0 else Float.ofNat part / Float.ofNat whole

/-! ## R-multiples -/

/-- Every R-multiple that is present, whatever the label. -/
def rMultiples (outcomes : List Outcome) : List Float :=
  outcomes.filterMap fun outcome => outcome.rMultiple.map (·.value)

def distribution (outcomes : List Outcome) : List Quantity :=
  (outcomes.filter (·.isEvaluable)).filterMap (·.rMultiple)

def expectancy (outcomes : List Outcome) : Quantity :=
  meanQuantity (distribution outcomes)

def labelRate (label : OutcomeLabel) (outcomes : List Outcome) : Float :=
  let evaluable := outcomes.filter (·.isEvaluable)
  rate (evaluable.countP (·.label = label)) evaluable.length

def winRate (outcomes : List Outcome) : Float :=
  labelRate .win outcomes

def breakEvenRate (outcomes : List Outcome) : Float :=
  labelRate .breakEven outcomes

/-- All gains over all losses, by sign. Without losses it is zero. -/
def profitFactor (outcomes : List Outcome) : Float :=
  let multiples := rMultiples outcomes
  let gains := sum (multiples.filter fun r => 0 < r)
  let losses := sum ((multiples.filter fun r => r < 0).map (-·))
  if losses == 0.0 then 0.0 else gains / losses

/-! ## Drawdown -/

structure Curve where
  total : Float := 0.0
  peak : Float := 0.0
  drawdown : Float := 0.0

def Curve.step (curve : Curve) (r : Float) : Curve :=
  let total := curve.total + r
  let peak := if curve.peak < total then total else curve.peak
  let fall := peak - total
  { total, peak, drawdown := if curve.drawdown < fall then fall else curve.drawdown }

/-- The deepest fall of the running sum of R-multiples below its highest place so far. The sum
begins at zero, so a loss at the beginning is a fall. -/
def maxDrawdown (outcomes : List Outcome) : Float :=
  ((rMultiples outcomes).foldl Curve.step {}).drawdown

/-! ## Streaks -/

structure Streaks where
  gains : Nat := 0
  losses : Nat := 0
  longestGains : Nat := 0
  longestLosses : Nat := 0

def Streaks.step (streaks : Streaks) (r : Float) : Streaks :=
  let gains := if 0 < r then streaks.gains + 1 else 0
  let losses := if r < 0 then streaks.losses + 1 else 0
  { gains, losses
    longestGains := max streaks.longestGains gains
    longestLosses := max streaks.longestLosses losses }

/-- The runs in the R-multiples; outcomes without one neither extend nor end a run. -/
def streaks (outcomes : List Outcome) : Streaks :=
  (rMultiples outcomes).foldl Streaks.step {}

def maxWinStreak (outcomes : List Outcome) : Nat :=
  (streaks outcomes).longestGains

def maxLossStreak (outcomes : List Outcome) : Nat :=
  (streaks outcomes).longestLosses

/-! ## Excursions -/

def averageAdverse (outcomes : List Outcome) : Option Float :=
  meanPresent (outcomes.filterMap (·.adverse))

def averageFavourable (outcomes : List Outcome) : Option Float :=
  meanPresent (outcomes.filterMap (·.favourable))

end SignalReplay.Metrics
