import Mathlib.Algebra.BigOperators.Group.Finset.Basic
import SignalReplay.Metrics.Histogram
import SignalReplay.Proofs.Binary64.Arithmetic
import SignalReplay.Proofs.Json.Literal
import SignalReplay.Proofs.Metrics.Multiples

/-!
The histogram as a partition of the numbers. Buckets are intervals between cuts of the line, each
beside an edge. Cuts rise, so a number passes those up to some place and no others. How many it
passes is the place of its bucket, and of the only interval that contains it.
-/

namespace SignalReplay

namespace HistogramEdges

open Binary64

/-! ## Intervals -/

/-- The numbers of a bucket. Edges below zero belong to the interval above them, and edges above
zero to the interval below them. -/
inductive Interval
  | below (upper : Float)
  | atLeast (lower upper : Float)
  | zero
  | atMost (lower upper : Float)
  | above (lower : Float)

namespace Interval

def contains : Interval → Float → Bool
  | .below upper, r => r < upper
  | .atLeast lower upper, r => lower ≤ r && r < upper
  | .zero, r => r == 0
  | .atMost lower upper, r => lower < r && r ≤ upper
  | .above lower, r => lower < r

def label : Interval → String
  | .below upper => "< " ++ writeEdge upper
  | .atLeast lower upper => "[" ++ writeEdge lower ++ "," ++ writeEdge upper ++ ")"
  | .zero => "0"
  | .atMost lower upper => "(" ++ writeEdge lower ++ "," ++ writeEdge upper ++ "]"
  | .above lower => "> " ++ writeEdge lower

end Interval

/-- A text with digits and no exponent names a number to which the edge is the nearest. -/
def Spells (text : String) (edge : Float) : Prop :=
  ∃ literal : Json.Literal, literal.exponent = none ∧ text.toList = literal.text ∧
    literal.decimal.toFloat = edge

/-- The texts of the ends stand between the marks that say which end belongs to the interval. -/
inductive Interval.IsLabel : Interval → String → Prop
  | below {upper : Float} {text : String} (spelled : Spells text upper) :
      IsLabel (.below upper) ("< " ++ text)
  | atLeast {lower upper : Float} {low high : String} (spelledLow : Spells low lower)
      (spelledHigh : Spells high upper) :
      IsLabel (.atLeast lower upper) ("[" ++ low ++ "," ++ high ++ ")")
  | zero : IsLabel .zero "0"
  | atMost {lower upper : Float} {low high : String} (spelledLow : Spells low lower)
      (spelledHigh : Spells high upper) :
      IsLabel (.atMost lower upper) ("(" ++ low ++ "," ++ high ++ "]")
  | above {lower : Float} {text : String} (spelled : Spells text lower) :
      IsLabel (.above lower) ("> " ++ text)

/-- The intervals from the least numbers to the greatest. On a side of zero without edges there is
one interval, which ends at zero. -/
def intervals (edges : HistogramEdges) : List Interval :=
  let lowEnds := edges.negative ++ [0.0]
  let highEnds := 0.0 :: edges.positive
  [.below (edges.negative.head?.getD 0.0)] ++ lowEnds.zipWith .atLeast lowEnds.tail ++
    [.zero] ++ highEnds.zipWith .atMost highEnds.tail ++
    [.above (edges.positive.getLast?.getD 0.0)]

/-! ## Labels -/

theorem negativeLabels_eq (negative : List Float) :
    negativeLabels negative =
      ((negative ++ [0.0]).zipWith Interval.atLeast (negative ++ [0.0]).tail).map
        Interval.label := by
  induction negative using negativeLabels.induct with
  | case1 => rfl
  | case2 edge => rfl
  | case3 edge next rest induction =>
      rw [negativeLabels, induction]
      rfl

theorem positiveLabels_eq (lower : Float) (positive : List Float) :
    positiveLabels lower positive =
      ((lower :: positive).zipWith Interval.atMost positive).map Interval.label := by
  induction positive generalizing lower with
  | nil => rfl
  | cons edge rest induction =>
      rw [positiveLabels, induction]
      rfl

theorem labels_eq (edges : HistogramEdges) : edges.labels = edges.intervals.map (·.label) := by
  simp only [labels, intervals, List.map_append, List.tail_cons, negativeLabels_eq,
    positiveLabels_eq]
  rfl

theorem exists_literal_magnitude (negative : Bool) {bits : Nat} (finite : bits < infinityBits) :
    ∃ literal : Json.Literal, literal.exponent = none ∧ literal.negative = negative ∧
      literal.magnitude = labelLayout.magnitude bits ∧
      Decimal.nearestBits literal.decimal.digits literal.decimal.exponent = bits := by
  rcases Nat.eq_zero_or_pos bits with rfl | positive
  · exact ⟨⟨negative, ['0'], [], none, Json.Token.leads_zero, List.forall_mem_nil _⟩, rfl, rfl, rfl,
      (by decide : Decimal.nearestBits 0 0 = 0)⟩
  rcases Decimal.magnitude_spells labelLayout positive finite with
    ⟨digits, power, spells, -, text⟩
  rcases Json.Token.exists_splits labelLayout.wholeTail spells with
    ⟨whole, fraction, zeros, splits, positional⟩
  refine ⟨⟨negative, whole, fraction, none, splits.leads, splits.all_digits⟩, rfl, rfl, ?_, ?_⟩
  · have pointed : labelLayout.isPositional power = true := rfl
    rw [text, if_pos pointed, positional, Json.Literal.magnitude, Json.Literal.fractionText,
      Json.Literal.exponentText, Option.elim_none, List.append_nil]
    rfl
  · change Decimal.nearestBits (Decimal.valueOfDigits (whole ++ fraction)) (0 - fraction.length) =
      bits
    rw [splits.value, Decimal.nearestBits_shift, ← splits.exponent, spells.reads_back]

theorem spells_writeEdge {edge : Float} (finite : edge.isFinite = true) :
    Spells (writeEdge edge) edge := by
  have below := finite
  rw [isFinite_eq, decide_eq_true_eq] at below
  rcases exists_literal_magnitude (isNegative edge) below with
    ⟨literal, plain, sign, text, named⟩
  refine ⟨literal, plain, ?_, ?_⟩
  · rw [writeEdge, Decimal.Layout.write, isNaN_of_isFinite finite, if_neg Bool.false_ne_true]
    dsimp only
    rw [if_neg below.ne, String.toList_ofList, Json.Literal.text, sign, text]
  · have negative : literal.decimal.negative = isNegative edge := sign
    rw [Decimal.toFloat, named, negative, ofMagnitude_fields (isNaN_of_isFinite finite)]

@[simp]
theorem length_intervals (edges : HistogramEdges) :
    edges.intervals.length = edges.negative.length + edges.positive.length + 3 := by
  simp only [intervals, List.length_append, List.length_zipWith, List.length_tail,
    List.length_cons, List.length_nil]
  omega

@[simp]
theorem length_labels (edges : HistogramEdges) :
    edges.labels.length = edges.negative.length + edges.positive.length + 3 := by
  rw [labels_eq, List.length_map, length_intervals]

/-! ## Cuts -/

inductive Cut
  | before (edge : Float)
  | after (edge : Float)

namespace Cut

def edge : Cut → Float
  | .before edge => edge
  | .after edge => edge

def passedBy (r : Float) : Cut → Bool
  | .before edge => edge ≤ r
  | .after edge => edge < r

end Cut

def cuts (edges : HistogramEdges) : List Cut :=
  (edges.negative ++ [0.0]).map .before ++ (0.0 :: edges.positive).map .after

@[simp]
theorem length_cuts (edges : HistogramEdges) :
    edges.cuts.length = edges.negative.length + edges.positive.length + 2 := by
  simp only [cuts, List.length_append, List.length_map, List.length_cons, List.length_nil]
  omega

namespace Interval

def lower : Interval → Option Cut
  | .below _ => none
  | .atLeast lower _ => some (.before lower)
  | .zero => some (.before 0.0)
  | .atMost lower _ => some (.after lower)
  | .above lower => some (.after lower)

def upper : Interval → Option Cut
  | .below upper => some (.before upper)
  | .atLeast _ upper => some (.before upper)
  | .zero => some (.after 0.0)
  | .atMost _ upper => some (.after upper)
  | .above _ => none

/-- An interval contains what is above its lower cut and not above its upper one. -/
theorem contains_iff {interval : Interval} {r : Float} (defined : r.isNaN = false)
    (edgeDefined : ∀ cut ∈ interval.upper, cut.edge.isNaN = false) :
    interval.contains r = true ↔
      (∀ cut ∈ interval.lower, cut.passedBy r = true) ∧
        ∀ cut ∈ interval.upper, ¬ cut.passedBy r = true := by
  cases interval <;>
    simp only [contains, lower, upper, Cut.passedBy, Cut.edge, Option.mem_def, Option.some.injEq,
      forall_eq', Bool.and_eq_true, decide_eq_true_eq, reduceCtorEq, false_imp_iff, implies_true,
      true_and, and_true] at edgeDefined ⊢
  case below upper => exact (not_le_iff edgeDefined defined).symm
  case atLeast lower upper => rw [not_le_iff edgeDefined defined]
  case zero =>
    rw [not_lt_iff edgeDefined defined, beq_iff_le_and_le]
    exact and_comm
  case atMost lower upper => rw [not_lt_iff edgeDefined defined]

theorem not_contains_of_isNaN {interval : Interval} {r : Float} (undefined : r.isNaN = true) :
    ¬ interval.contains r = true := by
  cases interval <;>
    simp only [contains, lt_iff, le_iff, beq_iff, undefined, Bool.and_eq_true, decide_eq_true_eq,
      reduceCtorEq, false_and, and_false, not_false_eq_true]

end Interval

section Consecutive

variable {between : Float → Float → Interval} {cut : Float → Cut}

theorem map_lower_consecutive (lower : ∀ low high, (between low high).lower = some (cut low))
    (ends : List Float) :
    (ends.zipWith between ends.tail).map (·.lower) = ends.dropLast.map (some ∘ cut) := by
  rw [List.map_zipWith]
  simp only [lower]
  induction ends with
  | nil => rfl
  | cons low rest induction =>
      cases rest with
      | nil => rfl
      | cons high rest => exact congrArg _ induction

theorem map_upper_consecutive (upper : ∀ low high, (between low high).upper = some (cut high))
    (ends : List Float) :
    (ends.zipWith between ends.tail).map (·.upper) = ends.tail.map (some ∘ cut) := by
  rw [List.map_zipWith]
  simp only [upper]
  cases ends with
  | nil => rfl
  | cons low rest =>
      induction rest generalizing low with
      | nil => rfl
      | cons high rest induction => exact congrArg _ (induction high)

end Consecutive

theorem map_lower_intervals (edges : HistogramEdges) :
    edges.intervals.map (·.lower) = none :: edges.cuts.map some := by
  have high : (0.0 :: edges.positive).dropLast ++ [edges.positive.getLast?.getD 0.0] =
      0.0 :: edges.positive :=
    List.dropLast_append_getLast? _ List.getLast?_cons
  unfold intervals cuts
  simp only [List.map_append]
  rw [map_lower_consecutive fun _ _ => rfl, map_lower_consecutive fun _ _ => rfl,
    List.dropLast_concat, ← high]
  simp [Interval.lower]

theorem map_upper_intervals (edges : HistogramEdges) :
    edges.intervals.map (·.upper) = edges.cuts.map some ++ [none] := by
  obtain ⟨rest, low⟩ : ∃ rest,
      edges.negative ++ [0.0] = edges.negative.head?.getD 0.0 :: rest := by
    cases edges.negative with
    | nil => exact ⟨[], rfl⟩
    | cons first rest => exact ⟨rest ++ [0.0], rfl⟩
  unfold intervals cuts
  rw [low]
  simp only [List.map_append]
  rw [map_upper_consecutive fun _ _ => rfl, map_upper_consecutive fun _ _ => rfl]
  simp [Interval.upper]

theorem mem_cuts_of_lower {edges : HistogramEdges} {interval : Interval} {cut : Cut}
    (member : interval ∈ edges.intervals) (isLower : cut ∈ interval.lower) : cut ∈ edges.cuts := by
  have found := List.mem_map_of_mem (f := Interval.lower) member
  rw [map_lower_intervals, isLower, List.mem_cons, List.mem_map] at found
  rcases found with none | ⟨_, inside, ⟨rfl⟩⟩
  · cases none
  · exact inside

theorem mem_cuts_of_upper {edges : HistogramEdges} {interval : Interval} {cut : Cut}
    (member : interval ∈ edges.intervals) (isUpper : cut ∈ interval.upper) : cut ∈ edges.cuts := by
  have found := List.mem_map_of_mem (f := Interval.upper) member
  rw [map_upper_intervals, isUpper, List.mem_append, List.mem_singleton, List.mem_map] at found
  rcases found with ⟨_, inside, ⟨rfl⟩⟩ | none
  · exact inside
  · cases none

theorem Interval.isLabel_label {interval : Interval}
    (low : ∀ cut ∈ interval.lower, cut.edge.isFinite = true)
    (high : ∀ cut ∈ interval.upper, cut.edge.isFinite = true) :
    interval.IsLabel interval.label := by
  cases interval with
  | below upper =>
      have spelled := spells_writeEdge (high (.before upper) rfl)
      exact IsLabel.below spelled
  | atLeast lower upper =>
      have spelledLow := spells_writeEdge (low (.before lower) rfl)
      have spelledHigh := spells_writeEdge (high (.before upper) rfl)
      exact IsLabel.atLeast spelledLow spelledHigh
  | zero => exact .zero
  | atMost lower upper =>
      have spelledLow := spells_writeEdge (low (.after lower) rfl)
      have spelledHigh := spells_writeEdge (high (.after upper) rfl)
      exact IsLabel.atMost spelledLow spelledHigh
  | above lower =>
      have spelled := spells_writeEdge (low (.after lower) rfl)
      exact IsLabel.above spelled

/-! ## Edges in use -/

structure Checked (edges : HistogramEdges) : Prop where
  negative : ∀ edge ∈ edges.negative, edge.isFinite = true ∧ edge < 0
  positive : ∀ edge ∈ edges.positive, edge.isFinite = true ∧ 0 < edge
  risingNegative : edges.negative.Pairwise (· < ·)
  risingPositive : edges.positive.Pairwise (· < ·)

theorem isRising_iff {values : List Float} :
    isRising values = true ↔ values.Pairwise (· < ·) := by
  rw [← List.isChain_iff_pairwise]
  induction values using isRising.induct with
  | case1 first second rest induction =>
      rw [isRising, Bool.and_eq_true, induction, List.isChain_cons_cons, decide_eq_true_eq]
  | case2 values short =>
      cases values with
      | nil => simp [isRising]
      | cons first rest =>
          cases rest with
          | nil => simp [isRising]
          | cons second rest => exact absurd rfl (short first second rest)

theorem checked_of_check {edges : HistogramEdges} (accepted : edges.check = .ok ()) :
    edges.Checked := by
  unfold check at accepted
  split at accepted
  · contradiction
  · split at accepted
    · contradiction
    · split at accepted
      · contradiction
      · rename_i negative positive rising
        simp only [Bool.not_eq_true, List.any_eq_false, Bool.or_eq_false_iff, Bool.not_eq_false',
          decide_eq_false_iff_not, isRising_iff] at negative positive rising
        refine ⟨fun edge member => ?_, fun edge member => ?_, rising.1, rising.2⟩
        · rcases negative edge member with ⟨finite, notLe⟩
          exact ⟨finite, (not_le_iff (by decide) (isNaN_of_isFinite finite)).mp notLe⟩
        · rcases positive edge member with ⟨finite, notLe⟩
          exact ⟨finite, (not_le_iff (isNaN_of_isFinite finite) (by decide)).mp notLe⟩

/-! ## Cuts passed -/

/-- Where each element that passes has only such elements before it, those that pass are the first
ones. -/
theorem getElem_iff_lt_countP {α : Type} {passes : α → Bool} {elements : List α}
    (falling : elements.Pairwise fun earlier later => passes later = true → passes earlier = true)
    {place : Nat} (inside : place < elements.length) :
    passes elements[place] = true ↔ place < elements.countP passes := by
  induction elements generalizing place with
  | nil => contradiction
  | cons first rest induction =>
      rcases List.pairwise_cons.mp falling with ⟨fromFirst, restFalls⟩
      by_cases passed : passes first = true
      · rw [List.countP_cons_of_pos passed]
        cases place with
        | zero => simp only [List.getElem_cons_zero, passed, Nat.zero_lt_succ]
        | succ place =>
            rw [List.getElem_cons_succ, induction restFalls (Nat.lt_of_succ_lt_succ inside),
              Nat.succ_lt_succ_iff]
      · have nothing : ∀ element ∈ first :: rest, ¬ passes element = true := by
          intro element member
          rcases List.mem_cons.mp member with rfl | later
          · exact passed
          · exact fun laterPassed => passed (fromFirst element later laterPassed)
        have none := nothing _ (List.getElem_mem inside)
        rw [List.countP_eq_zero.mpr nothing]
        exact iff_of_false none (Nat.not_lt_zero _)

variable {edges : HistogramEdges} {r : Float} {place : Nat}

namespace Checked

theorem low (checked : edges.Checked) {edge : Float} (member : edge ∈ edges.negative ++ [0.0]) :
    edge.isFinite = true ∧ edge ≤ 0 := by
  rcases List.mem_append.mp member with negative | zero
  · rcases checked.negative edge negative with ⟨finite, less⟩
    exact ⟨finite, le_of_lt less⟩
  · rw [List.mem_singleton.mp zero]
    decide

theorem high (checked : edges.Checked) {edge : Float} (member : edge ∈ 0.0 :: edges.positive) :
    edge.isFinite = true ∧ 0 ≤ edge := by
  rcases List.mem_cons.mp member with rfl | positive
  · decide
  · rcases checked.positive edge positive with ⟨finite, more⟩
    exact ⟨finite, le_of_lt more⟩

theorem isFinite_edge (checked : edges.Checked) {cut : Cut} (member : cut ∈ edges.cuts) :
    cut.edge.isFinite = true := by
  rcases List.mem_append.mp member with below | above
  · rcases List.mem_map.mp below with ⟨edge, inside, rfl⟩
    exact (checked.low inside).1
  · rcases List.mem_map.mp above with ⟨edge, inside, rfl⟩
    exact (checked.high inside).1

theorem pairwise_cuts (checked : edges.Checked) (r : Float) :
    edges.cuts.Pairwise fun earlier later =>
      later.passedBy r = true → earlier.passedBy r = true := by
  have rising : (edges.negative ++ [0.0]).Pairwise (· < ·) ∧
      (0.0 :: edges.positive).Pairwise (· < ·) := by
    constructor
    · refine List.pairwise_append.mpr ⟨checked.risingNegative, List.pairwise_singleton _ _, ?_⟩
      intro edge member zero isZero
      rw [List.mem_singleton.mp isZero]
      exact (checked.negative edge member).2
    · exact List.pairwise_cons.mpr
        ⟨fun edge member => (checked.positive edge member).2, checked.risingPositive⟩
  refine List.pairwise_append.mpr ⟨List.pairwise_map.mpr ?_, List.pairwise_map.mpr ?_, ?_⟩
  · refine rising.1.imp fun less le => ?_
    simp only [Cut.passedBy, decide_eq_true_eq] at le ⊢
    exact le_of_le_of_le (le_of_lt less) le
  · refine rising.2.imp fun less more => ?_
    simp only [Cut.passedBy, decide_eq_true_eq] at more ⊢
    exact lt_of_lt_of_lt less more
  · intro below belowInside above aboveInside more
    rcases List.mem_map.mp belowInside with ⟨low, lowInside, rfl⟩
    rcases List.mem_map.mp aboveInside with ⟨high, highInside, rfl⟩
    simp only [Cut.passedBy, decide_eq_true_eq] at more ⊢
    exact le_of_le_of_le (checked.low lowInside).2
      (le_of_le_of_le (checked.high highInside).2 (le_of_lt more))

theorem countP_negative (checked : edges.Checked) (atLeast : 0 ≤ r) :
    edges.negative.countP (fun edge => edge ≤ r) = edges.negative.length := by
  rw [List.countP_eq_length]
  intro edge member
  rw [decide_eq_true_eq]
  exact le_of_le_of_le (le_of_lt (checked.negative edge member).2) atLeast

theorem countP_positive (checked : edges.Checked) (atMost : r ≤ 0) :
    edges.positive.countP (fun edge => edge < r) = 0 := by
  rw [List.countP_eq_zero]
  intro edge member
  rw [decide_eq_true_eq]
  exact not_lt_of_le (le_of_le_of_le atMost (le_of_lt (checked.positive edge member).2))

theorem bucketOf?_eq (checked : edges.Checked) (defined : r.isNaN = false) :
    edges.bucketOf? r = some (edges.cuts.countP (·.passedBy r)) := by
  have counted : edges.cuts.countP (·.passedBy r) =
      edges.negative.countP (fun edge => edge ≤ r) + (if 0 ≤ r then 1 else 0) +
        (edges.positive.countP (fun edge => edge < r) + if 0 < r then 1 else 0) := by
    simp only [cuts, List.countP_append, List.countP_map, List.countP_cons, List.countP_nil,
      Function.comp_def, Cut.passedBy, decide_eq_true_eq, Nat.zero_add]
    rfl
  have zeroDefined : (0 : Float).isNaN = false := by decide
  simp only [bucketOf?, defined, Bool.false_eq_true, if_false, counted]
  by_cases negative : r < 0
  · have atMost := le_of_lt negative
    rw [if_pos negative, checked.countP_positive atMost, if_neg (not_lt_of_le atMost),
      if_neg ((not_le_iff zeroDefined defined).mpr negative)]
    rfl
  have atLeast := (not_lt_iff defined zeroDefined).mp negative
  rw [if_neg negative, checked.countP_negative atLeast, if_pos atLeast]
  by_cases zero : (r == 0) = true
  · have atMost := (beq_iff_le_and_le.mp zero).1
    rw [if_pos zero, checked.countP_positive atMost, if_neg (not_lt_of_le atMost)]
  · have positive : 0 < r := by
      rw [← not_le_iff defined zeroDefined]
      exact fun atMost => zero (beq_iff_le_and_le.mpr ⟨atMost, atLeast⟩)
    rw [if_neg zero, if_pos positive]
    congr 1
    omega

variable {interval : Interval}

theorem lower_passed_iff (checked : edges.Checked)
    (found : edges.intervals[place]? = some interval) :
    (∀ cut ∈ interval.lower, cut.passedBy r = true) ↔
      place ≤ edges.cuts.countP (·.passedBy r) := by
  have lowerAt := congrArg (·[place]?) edges.map_lower_intervals
  simp only [List.getElem?_map, found, Option.map_some] at lowerAt
  cases place with
  | zero =>
      rw [List.getElem?_cons_zero, Option.some.injEq] at lowerAt
      simp only [lowerAt, Option.not_mem_none, false_imp_iff, implies_true, Nat.zero_le]
  | succ place =>
      rw [List.getElem?_cons_succ, List.getElem?_map, eq_comm, Option.map_eq_some_iff] at lowerAt
      rcases lowerAt with ⟨cut, cutAt, equal⟩
      rcases List.getElem?_eq_some_iff.mp cutAt with ⟨inside, rfl⟩
      rw [← equal]
      simp only [Option.mem_def, Option.some.injEq, forall_eq']
      exact getElem_iff_lt_countP (checked.pairwise_cuts r) inside

theorem upper_not_passed_iff (checked : edges.Checked)
    (found : edges.intervals[place]? = some interval) :
    (∀ cut ∈ interval.upper, ¬ cut.passedBy r = true) ↔
      edges.cuts.countP (·.passedBy r) ≤ place := by
  have upperAt := congrArg (·[place]?) edges.map_upper_intervals
  simp only [List.getElem?_map, found, Option.map_some] at upperAt
  rcases Nat.lt_or_ge place edges.cuts.length with inside | beyond
  · rw [List.getElem?_append_left (by rwa [List.length_map]), List.getElem?_map,
      List.getElem?_eq_getElem inside, Option.map_some, Option.some.injEq] at upperAt
    rw [upperAt]
    simp only [Option.mem_def, Option.some.injEq, forall_eq']
    rw [getElem_iff_lt_countP (checked.pairwise_cuts r) inside, Nat.not_lt]
  · rw [List.getElem?_append_right (by rwa [List.length_map])] at upperAt
    have last := List.mem_singleton.mp (List.mem_of_getElem? upperAt.symm)
    have most := edges.cuts.countP_le_length (p := (·.passedBy r))
    simp only [last, Option.not_mem_none, false_imp_iff, implies_true, true_iff]
    exact Nat.le_trans most beyond

theorem isNaN_upper (checked : edges.Checked) (found : edges.intervals[place]? = some interval) :
    ∀ cut ∈ interval.upper, cut.edge.isNaN = false := by
  intro cut isUpper
  have inside := mem_cuts_of_upper (List.mem_of_getElem? found) isUpper
  exact isNaN_of_isFinite (checked.isFinite_edge inside)

theorem isLabel_label (checked : edges.Checked) (member : interval ∈ edges.intervals) :
    interval.IsLabel interval.label :=
  Interval.isLabel_label
    (fun _ isLower => checked.isFinite_edge (mem_cuts_of_lower member isLower))
    (fun _ isUpper => checked.isFinite_edge (mem_cuts_of_upper member isUpper))

theorem bucketOf?_eq_some_iff (checked : edges.Checked) :
    edges.bucketOf? r = some place ↔
      ∃ interval, edges.intervals[place]? = some interval ∧ interval.contains r = true := by
  by_cases undefined : r.isNaN = true
  · simp only [bucketOf?, undefined, if_true, reduceCtorEq, false_iff, not_exists, not_and]
    intro interval _
    exact Interval.not_contains_of_isNaN undefined
  have defined := Bool.eq_false_of_not_eq_true undefined
  have contains {interval : Interval} (found : edges.intervals[place]? = some interval) :
      interval.contains r = true ↔ place = edges.cuts.countP (·.passedBy r) := by
    rw [Interval.contains_iff defined (checked.isNaN_upper found), checked.lower_passed_iff found,
      checked.upper_not_passed_iff found, Nat.le_antisymm_iff]
  rw [checked.bucketOf?_eq defined, Option.some.injEq]
  constructor
  · intro equal
    have most := edges.cuts.countP_le_length (p := (·.passedBy r))
    have inside : place < edges.intervals.length := by
      rw [length_intervals, ← equal]
      rw [length_cuts] at most
      omega
    have found := List.getElem?_eq_getElem inside
    exact ⟨_, found, (contains found).mpr equal.symm⟩
  · rintro ⟨interval, found, inside⟩
    exact ((contains found).mp inside).symm

end Checked

/-! ## Counts -/

theorem bucketOf?_lt_length (found : edges.bucketOf? r = some place) :
    place < edges.labels.length := by
  have negatives := edges.negative.countP_le_length (p := fun edge => edge ≤ r)
  have positives := edges.positive.countP_le_length (p := fun edge => edge < r)
  rw [length_labels]
  unfold bucketOf? at found
  grind

@[simp]
theorem bucketOf?_isSome (edges : HistogramEdges) (r : Float) :
    (edges.bucketOf? r).isSome = !r.isNaN := by
  unfold bucketOf?
  grind

end HistogramEdges

namespace Metrics

open HistogramEdges

theorem sum_count_range {places : List Nat} {bound : Nat}
    (inside : ∀ place ∈ places, place < bound) :
    ((List.range bound).map fun place => places.count place).sum = places.length := by
  have absent : ∀ place ∈ Finset.range bound, place ∉ places.toFinset → places.count place = 0 :=
    fun place _ outside => List.count_eq_zero.mpr (mt List.mem_toFinset.mpr outside)
  calc ((List.range bound).map fun place => places.count place).sum
      = ∑ place ∈ Finset.range bound, places.count place := rfl
    _ = ∑ place ∈ places.toFinset, places.count place :=
        (Finset.sum_subset (fun place member =>
          Finset.mem_range.mpr (inside place (List.mem_toFinset.mp member))) absent).symm
    _ = places.length := List.sum_toFinset_count_eq_length places

theorem counts_histogram (edges : HistogramEdges) (outcomes : List Outcome) :
    (histogram edges outcomes).map (·.count) =
      (List.range edges.labels.length).map fun place =>
        ((rMultiples outcomes).filterMap edges.bucketOf?).count place := by
  apply List.ext_getElem
  · simp [histogram]
  · intro place _ _
    simp [histogram]

theorem sum_histogram (edges : HistogramEdges) (outcomes : List Outcome) :
    ((histogram edges outcomes).map (·.count)).sum = outcomes.countP (·.multipleIs (!·.isNaN)) := by
  rw [counts_histogram, sum_count_range, List.length_filterMap_eq_countP, ← countP_rMultiples]
  · simp only [bucketOf?_isSome]
  · intro place member
    rcases List.mem_filterMap.mp member with ⟨r, _, found⟩
    exact bucketOf?_lt_length found

theorem histogram_eq {edges : HistogramEdges} (checked : edges.Checked) (outcomes : List Outcome) :
    histogram edges outcomes = edges.intervals.map fun interval =>
      ⟨interval.label, outcomes.countP (·.multipleIs interval.contains)⟩ := by
  apply List.ext_getElem?
  intro place
  simp only [histogram, List.getElem?_mapIdx, labels_eq, List.getElem?_map]
  cases found : edges.intervals[place]? with
  | none => rfl
  | some interval =>
      have filed (r : Float) :
          (edges.bucketOf? r == some place) = true ↔ interval.contains r = true := by
        rw [beq_iff_eq, checked.bucketOf?_eq_some_iff, found]
        simp only [Option.some.injEq, exists_eq_left']
      simp only [Option.map_some]
      rw [List.count_filterMap, List.countP_congr fun r _ => filed r, countP_rMultiples]

/-- The buckets are intervals that lie between the edges, each with a label that spells its ends.
Each number lies in one of them, which is its bucket, and a bucket counts the outcomes with an
R-multiple in it. Whatever the edges are, no R-multiple that is a number goes uncounted. -/
theorem histogram_partitions (edges : HistogramEdges) :
    edges.labels = edges.intervals.map (·.label) ∧
      edges.intervals.length = edges.negative.length + edges.positive.length + 3 ∧
      (edges.check = .ok () →
        (∀ interval ∈ edges.intervals, interval.IsLabel interval.label) ∧
        (∀ r : Float, r.isNaN = false → ∃ place, edges.bucketOf? r = some place ∧
          ∀ other, (∃ interval, edges.intervals[other]? = some interval ∧
            interval.contains r = true) ↔ other = place) ∧
        ∀ outcomes, histogram edges outcomes = edges.intervals.map fun interval =>
          ⟨interval.label, outcomes.countP (·.multipleIs interval.contains)⟩) ∧
      (∀ r place, edges.bucketOf? r = some place → place < edges.labels.length) ∧
      ∀ outcomes, ((histogram edges outcomes).map (·.count)).sum =
        outcomes.countP (·.multipleIs (!·.isNaN)) := by
  refine ⟨edges.labels_eq, edges.length_intervals, fun accepted => ?_,
    fun r place => bucketOf?_lt_length, sum_histogram edges⟩
  have checked := checked_of_check accepted
  refine ⟨fun interval => checked.isLabel_label,
    fun r defined => ⟨_, checked.bucketOf?_eq defined, fun other => ?_⟩, histogram_eq checked⟩
  rw [← checked.bucketOf?_eq_some_iff, checked.bucketOf?_eq defined, Option.some.injEq, eq_comm]

theorem histogram_partitions_standard :
    let edges := HistogramEdges.standard
    edges.check = .ok () ∧
      edges.labels = ["< -2", "[-2,-1)", "[-1,0)", "0", "(0,1]", "(1,2]", "> 2"] ∧
      edges.intervals[2]? = some (.atLeast (-1.0) 0.0) ∧
      (∀ place, (∃ interval, edges.intervals[place]? = some interval ∧
        interval.contains (-1.0) = true) ↔ place = 2) ∧
      (Interval.atLeast (-1.0) 0.0).IsLabel "[-1,0)" := by
  intro edges
  have accepted : edges.check = .ok () := rfl
  have labels : edges.labels = ["< -2", "[-2,-1)", "[-1,0)", "0", "(0,1]", "(1,2]", "> 2"] := by
    decide +kernel
  have at2 : edges.intervals[2]? = some (.atLeast (-1.0) 0.0) := rfl
  have filed : edges.bucketOf? (-1.0) = some 2 := by decide
  rcases (histogram_partitions edges).2.2.1 accepted with ⟨spelled, parts, -⟩
  rcases parts (-1.0) (by decide) with ⟨place, found, only⟩
  obtain rfl : 2 = place := Option.some.inj (filed.symm.trans found)
  have label : (Interval.atLeast (-1.0) 0.0).label = "[-1,0)" := by decide +kernel
  exact ⟨accepted, labels, at2, only, label ▸ spelled _ (List.mem_of_getElem? at2)⟩

end Metrics

end SignalReplay
