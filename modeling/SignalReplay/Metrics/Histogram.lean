import SignalReplay.Decimal.Layout
import SignalReplay.Metrics.Basic

/-!
Histograms of R-multiples. Edges below and above zero cut the numbers into intervals; below zero
an interval holds its lower end, above zero its upper end, and zero has an interval of its own.
-/

namespace SignalReplay

structure HistogramEdges where
  /-- Rising, all below zero. -/
  negative : List Float
  /-- Rising, all above zero. -/
  positive : List Float

inductive EdgesError
  | negative (edges : List Float)
  | positive (edges : List Float)
  | notRising

/-- Edges in messages have a point from `0.0001` to below `10 ^ 16` and an exponent outside that,
without a plus sign. -/
def edgeLayout : Decimal.Layout where
  leastPositional := some (-4)
  greatestPositional := some 15
  wholeTail := ['.', '0']
  exponentPlus := false
  tie := .up

def writeEdges (edges : List Float) : String :=
  "[" ++ ", ".intercalate (edges.map edgeLayout.write) ++ "]"

def EdgesError.message : EdgesError → String
  | .negative edges => s!"negative edges must be finite and < 0: {writeEdges edges}"
  | .positive edges => s!"positive edges must be finite and > 0: {writeEdges edges}"
  | .notRising => "histogram edges must be strictly increasing"

namespace HistogramEdges

def standard : HistogramEdges :=
  ⟨[-2.0, -1.0], [1.0, 2.0]⟩

def isRising : List Float → Bool
  | first :: second :: rest => first < second && isRising (second :: rest)
  | _ => true

def check (edges : HistogramEdges) : Except EdgesError Unit :=
  if edges.negative.any fun edge => !edge.isFinite || 0 ≤ edge then
    .error (.negative edges.negative)
  else if edges.positive.any fun edge => !edge.isFinite || edge ≤ 0 then
    .error (.positive edges.positive)
  else if !isRising edges.negative || !isRising edges.positive then .error .notRising
  else .ok ()

/-! ## Labels -/

/-- Edges in labels are written with a point alone, and whole ones without it. -/
def labelLayout : Decimal.Layout where
  leastPositional := none
  greatestPositional := none
  wholeTail := []
  exponentPlus := false
  tie := .up

def writeEdge (edge : Float) : String :=
  labelLayout.write edge

def negativeLabels : List Float → List String
  | [] => []
  | [edge] => ["[" ++ writeEdge edge ++ "," ++ writeEdge 0.0 ++ ")"]
  | edge :: next :: rest =>
    ("[" ++ writeEdge edge ++ "," ++ writeEdge next ++ ")") :: negativeLabels (next :: rest)

def positiveLabels (lower : Float) : List Float → List String
  | [] => []
  | edge :: rest =>
    ("(" ++ writeEdge lower ++ "," ++ writeEdge edge ++ "]") :: positiveLabels edge rest

def labels (edges : HistogramEdges) : List String :=
  ["< " ++ writeEdge (edges.negative.head?.getD 0.0)] ++ negativeLabels edges.negative ++
    ["0"] ++ positiveLabels 0.0 edges.positive ++
    ["> " ++ writeEdge (edges.positive.getLast?.getD 0.0)]

def bucketOf? (edges : HistogramEdges) (r : Float) : Option Nat :=
  let atZero := edges.negative.length + 1
  if r.isNaN then none
  else if r < 0 then some (edges.negative.countP fun edge => edge ≤ r)
  else if r == 0 then some atZero
  else some (atZero + 1 + edges.positive.countP fun edge => edge < r)

end HistogramEdges

structure Bucket where
  label : String
  count : Nat
deriving DecidableEq, Repr

namespace Metrics

def histogram (edges : HistogramEdges) (outcomes : List Outcome) : List Bucket :=
  let places := (rMultiples outcomes).filterMap edges.bucketOf?
  edges.labels.mapIdx fun place label => ⟨label, places.count place⟩

end Metrics

end SignalReplay
