import SignalReplay.Proofs.Binary64.Difference
import SignalReplay.Proofs.Metrics.Multiples
import SignalReplay.Proofs.Tagging.Excursion

/-!
The drawdown as the deepest fall of the running sum of R-multiples. The peak is the greatest place
of the curve so far, and since a difference grows with the number it is taken from, the fall from
the peak is the deepest fall to the last place. Whatever the R-multiples are, the drawdown is a
number that begins at zero and only grows.
-/

namespace SignalReplay.Metrics

open Binary64

/-! ## Falls -/

/-- The sum of R-multiples before the first of them and after each. -/
def runningSums (outcomes : List Outcome) : List Float :=
  (rMultiples outcomes).scanl (· + ·) 0.0

theorem scanl_eq_cons_tail (total : Float) (values : List Float) :
    values.scanl (· + ·) total = total :: (values.scanl (· + ·) total).tail := by
  cases values with
  | nil => rfl
  | cons first rest => rw [List.scanl_cons, List.tail_cons]

/-- By how much a curve falls from one place to the same or a later one; a rise is a fall below
zero. -/
def IsFall (sums : List Float) (fall : Float) : Prop :=
  ∃ (before after : ℕ) (first last : Float), before ≤ after ∧ sums[before]? = some first ∧
    sums[after]? = some last ∧ fall = first - last

structure IsDeepestFall (sums : List Float) (deepest : Float) : Prop where
  attained : IsFall sums deepest
  bound : ∀ fall, IsFall sums fall → fall ≤ deepest

theorem isFall_concat {sums : List Float} {place fall : Float} :
    IsFall (sums ++ [place]) fall ↔
      IsFall sums fall ∨ ∃ first ∈ sums ++ [place], fall = first - place := by
  constructor
  · rintro ⟨before, after, first, last, ordered, firstAt, lastAt, equal⟩
    rcases Nat.lt_or_ge after sums.length with inside | beyond
    · rw [List.getElem?_append_left inside] at lastAt
      rw [List.getElem?_append_left (by omega)] at firstAt
      exact .inl ⟨before, after, first, last, ordered, firstAt, lastAt, equal⟩
    · rw [List.getElem?_append_right beyond] at lastAt
      have only := List.mem_singleton.mp (List.mem_of_getElem? lastAt)
      exact .inr ⟨first, List.mem_of_getElem? firstAt, only ▸ equal⟩
  · rintro (⟨before, after, first, last, ordered, firstAt, lastAt, equal⟩ | ⟨first, member, equal⟩)
    · have inside := (List.getElem?_eq_some_iff.mp lastAt).1
      refine ⟨before, after, first, last, ordered, ?_, ?_, equal⟩
      · rwa [List.getElem?_append_left (by omega)]
      · rwa [List.getElem?_append_left inside]
    · rcases List.mem_iff_getElem?.mp member with ⟨before, firstAt⟩
      have inside := (List.getElem?_eq_some_iff.mp firstAt).1
      rw [List.length_append, List.length_singleton] at inside
      exact ⟨before, sums.length, first, place, by omega, firstAt, List.getElem?_concat_length,
        equal⟩

/-! ## Finite curves -/

structure IsPeak (sums : List Float) (peak : Float) : Prop where
  mem : peak ∈ sums
  bound : ∀ place ∈ sums, place ≤ peak

variable {curve : Curve} {sums : List Float} {place peak drawdown : Float}

theorem IsPeak.concat (isPeak : IsPeak sums peak) (placeDefined : place.isNaN = false) :
    IsPeak (sums ++ [place]) (greater peak place) := by
  have defined : peak.isNaN = false := (le_iff.mp (isPeak.bound peak isPeak.mem)).1
  constructor
  · rcases greater_eq defined place with kept | ⟨moved, -⟩
    · rw [kept]
      exact List.mem_append_left _ isPeak.mem
    · rw [moved]
      exact List.mem_append_right _ List.mem_cons_self
  · intro other member
    rcases List.mem_append.mp member with seen | last
    · exact le_of_le_of_le (isPeak.bound other seen) (le_greater defined place)
    · rw [List.mem_singleton.mp last]
      exact le_greater_right defined placeDefined

theorem IsDeepestFall.concat (isDeepest : IsDeepestFall sums drawdown)
    (isPeak : IsPeak (sums ++ [place]) peak)
    (finite : ∀ other ∈ sums ++ [place], other.isFinite = true) :
    IsDeepestFall (sums ++ [place]) (greater drawdown (peak - place)) := by
  have defined : drawdown.isNaN = false :=
    (le_iff.mp (isDeepest.bound drawdown isDeepest.attained)).1
  have placeFinite := finite place (List.mem_append_right _ List.mem_cons_self)
  have fallFrom {first : Float} (member : first ∈ sums ++ [place]) : first - place ≤ peak - place :=
    sub_le_sub_of_le (finite first member) (finite peak isPeak.mem) placeFinite
      (isPeak.bound first member)
  have fallDefined : (peak - place).isNaN = false := (le_iff.mp (fallFrom isPeak.mem)).1
  constructor
  · rw [isFall_concat]
    rcases greater_eq defined (peak - place) with kept | ⟨moved, -⟩
    · rw [kept]
      exact .inl isDeepest.attained
    · exact .inr ⟨peak, isPeak.mem, moved⟩
  · intro fall isFall
    rcases isFall_concat.mp isFall with before | ⟨first, member, rfl⟩
    · exact le_of_le_of_le (isDeepest.bound fall before) (le_greater defined _)
    · exact le_of_le_of_le (fallFrom member) (le_greater_right defined fallDefined)

/-- The curve so far: its peak is its greatest place, and the drawdown its deepest fall. -/
structure Curve.Follows (curve : Curve) (sums : List Float) : Prop where
  peak : IsPeak sums curve.peak
  drawdown : IsDeepestFall sums curve.drawdown

theorem Curve.follows_start : Curve.Follows {} [0.0] := by
  refine ⟨⟨List.mem_cons_self, ?_⟩, ⟨0, 0, 0.0, 0.0, le_rfl, rfl, rfl, by decide⟩, ?_⟩
  · intro place member
    rw [List.mem_singleton.mp member]
    decide
  · rintro fall ⟨before, after, first, last, -, firstAt, lastAt, rfl⟩
    rw [List.mem_singleton.mp (List.mem_of_getElem? firstAt),
      List.mem_singleton.mp (List.mem_of_getElem? lastAt)]
    decide

theorem Curve.step_eq (peakDefined : curve.peak.isNaN = false)
    (drawdownDefined : curve.drawdown.isNaN = false) (r : Float) :
    (curve.step r).peak = greater curve.peak (curve.total + r) ∧
      (curve.step r).drawdown =
        greater curve.drawdown ((curve.step r).peak - (curve.total + r)) :=
  ⟨ite_lt_eq_greater peakDefined _, ite_lt_eq_greater drawdownDefined _⟩

theorem Curve.Follows.step (follows : curve.Follows sums) {r : Float}
    (finite : ∀ place ∈ sums ++ [curve.total + r], place.isFinite = true) :
    (curve.step r).Follows (sums ++ [curve.total + r]) := by
  have peakDefined := (le_iff.mp (follows.peak.bound _ follows.peak.mem)).1
  have drawdownDefined := (le_iff.mp (follows.drawdown.bound _ follows.drawdown.attained)).1
  have placeFinite := finite _ (List.mem_append_right _ List.mem_cons_self)
  rcases Curve.step_eq peakDefined drawdownDefined r with ⟨peakIs, drawdownIs⟩
  have isPeak : IsPeak (sums ++ [curve.total + r]) (curve.step r).peak := by
    rw [peakIs]
    exact follows.peak.concat (isNaN_of_isFinite placeFinite)
  refine ⟨isPeak, ?_⟩
  rw [drawdownIs]
  exact follows.drawdown.concat isPeak finite

theorem Curve.Follows.foldl {values : List Float} (follows : curve.Follows sums)
    (finite : ∀ place ∈ sums ++ (values.scanl (· + ·) curve.total).tail, place.isFinite = true) :
    (values.foldl Curve.step curve).Follows (sums ++ (values.scanl (· + ·) curve.total).tail) := by
  induction values generalizing curve sums with
  | nil => rwa [List.scanl_nil, List.tail_cons, List.append_nil]
  | cons r rest induction =>
      have split : sums ++ ((r :: rest).scanl (· + ·) curve.total).tail =
          (sums ++ [curve.total + r]) ++ (rest.scanl (· + ·) (curve.step r).total).tail := by
        rw [List.scanl_cons, List.tail_cons, scanl_eq_cons_tail, ← List.append_cons]
        rfl
      rw [split] at finite ⊢
      exact induction (follows.step fun place member =>
        finite place (List.mem_append_left _ member)) finite

theorem isDeepestFall_maxDrawdown {outcomes : List Outcome}
    (finite : ∀ place ∈ runningSums outcomes, place.isFinite = true) :
    IsDeepestFall (runningSums outcomes) (maxDrawdown outcomes) := by
  have start : runningSums outcomes =
      [0.0] ++ ((rMultiples outcomes).scanl (· + ·) (Curve.total {})).tail :=
    scanl_eq_cons_tail 0.0 (rMultiples outcomes)
  rw [start] at finite ⊢
  exact (Curve.follows_start.foldl finite).drawdown

/-! ## All curves -/

/-- Zero without a sign, or above zero. -/
def ZeroOrPositive (value : Float) : Prop :=
  value = 0 ∨ 0 < value

theorem ZeroOrPositive.isNaN_eq_false {value : Float} (least : ZeroOrPositive value) :
    value.isNaN = false := by
  rcases least with rfl | positive
  · decide
  · exact (lt_iff.mp positive).2.1

theorem ZeroOrPositive.nonneg {value : Float} (least : ZeroOrPositive value) : 0 ≤ value := by
  rcases least with rfl | positive
  · decide
  · exact le_of_lt positive

theorem ZeroOrPositive.greater {value : Float} (least : ZeroOrPositive value) (other : Float) :
    ZeroOrPositive (greater value other) := by
  rcases greater_eq least.isNaN_eq_false other with kept | ⟨moved, more⟩
  · rwa [kept]
  · have nonneg := (le_iff.mp least.nonneg).2.2
    have defined := isNaN_greater least.isNaN_eq_false other
    rw [moved] at defined ⊢
    exact .inr (lt_iff.mpr ⟨by decide, defined, Int.lt_of_le_of_lt nonneg more⟩)

theorem Curve.drawdown_step (least : ZeroOrPositive curve.drawdown) (r : Float) :
    ZeroOrPositive (curve.step r).drawdown ∧ curve.drawdown ≤ (curve.step r).drawdown := by
  have defined := least.isNaN_eq_false
  have drawdownIs : (curve.step r).drawdown =
      greater curve.drawdown ((curve.step r).peak - (curve.step r).total) :=
    ite_lt_eq_greater defined _
  rw [drawdownIs]
  exact ⟨least.greater _, le_greater defined _⟩

theorem Curve.drawdown_foldl (least : ZeroOrPositive curve.drawdown) (values : List Float) :
    ZeroOrPositive (values.foldl Curve.step curve).drawdown ∧
      curve.drawdown ≤ (values.foldl Curve.step curve).drawdown := by
  induction values generalizing curve with
  | nil => exact ⟨least, le_self least.isNaN_eq_false⟩
  | cons r rest induction =>
      rcases Curve.drawdown_step least r with ⟨next, more⟩
      rcases induction next with ⟨last, most⟩
      exact ⟨last, le_of_le_of_le more most⟩

theorem zeroOrPositive_maxDrawdown (outcomes : List Outcome) :
    ZeroOrPositive (maxDrawdown outcomes) :=
  (Curve.drawdown_foldl (.inl rfl) (rMultiples outcomes)).1

theorem maxDrawdown_le_append (earlier later : List Outcome) :
    maxDrawdown earlier ≤ maxDrawdown (earlier ++ later) := by
  unfold maxDrawdown
  rw [rMultiples_append, List.foldl_append]
  exact (Curve.drawdown_foldl (zeroOrPositive_maxDrawdown earlier) _).2

/-! ## Drawdown -/

theorem maxDrawdown_eq_zero_iff {outcomes : List Outcome}
    (finite : ∀ place ∈ runningSums outcomes, place.isFinite = true) :
    maxDrawdown outcomes = 0 ↔ (runningSums outcomes).Pairwise (· ≤ ·) := by
  have isDeepest := isDeepestFall_maxDrawdown finite
  rw [List.pairwise_iff_getElem]
  constructor
  · intro zero before after beforeInside afterInside ordered
    have firstFinite := finite _ (List.getElem_mem beforeInside)
    have lastFinite := finite _ (List.getElem_mem afterInside)
    by_contra falls
    have less :=
      (not_le_iff (isNaN_of_isFinite firstFinite) (isNaN_of_isFinite lastFinite)).mp falls
    have bound := isDeepest.bound _ ⟨before, after, _, _, ordered.le,
      List.getElem?_eq_getElem beforeInside, List.getElem?_eq_getElem afterInside, rfl⟩
    rw [zero] at bound
    exact not_lt_of_le bound (sub_pos_of_lt lastFinite firstFinite less)
  · intro rises
    rcases isDeepest.attained with ⟨before, after, first, last, ordered, firstAt, lastAt, equal⟩
    rcases List.getElem?_eq_some_iff.mp firstAt with ⟨beforeInside, rfl⟩
    rcases List.getElem?_eq_some_iff.mp lastAt with ⟨afterInside, rfl⟩
    have firstFinite := finite _ (List.getElem_mem beforeInside)
    have lastFinite := finite _ (List.getElem_mem afterInside)
    have le : (runningSums outcomes)[before] ≤ (runningSums outcomes)[after] := by
      rcases Nat.lt_or_eq_of_le ordered with earlier | rfl
      · exact rises before after beforeInside afterInside earlier
      · exact le_self (isNaN_of_isFinite firstFinite)
    have atMost : maxDrawdown outcomes ≤ 0 := by
      rw [equal]
      exact le_of_le_of_le (sub_le_sub_of_le firstFinite lastFinite lastFinite le)
        (sub_self_le_zero lastFinite)
    rcases zeroOrPositive_maxDrawdown outcomes with zero | positive
    · exact zero
    · exact absurd positive (not_lt_of_le atMost)

/-- Where the running sums are finite, the drawdown is the deepest fall from one of them to a later
one, and zero exactly if there is none. Whatever the R-multiples are, it is a number that is not
below zero, and it does not shrink when outcomes are added. -/
theorem maxDrawdown_measures_falls (outcomes later : List Outcome) :
    ((∀ place ∈ runningSums outcomes, place.isFinite = true) →
      IsDeepestFall (runningSums outcomes) (maxDrawdown outcomes) ∧
        (maxDrawdown outcomes = 0 ↔ (runningSums outcomes).Pairwise (· ≤ ·))) ∧
      (maxDrawdown outcomes).isNaN = false ∧ 0 ≤ maxDrawdown outcomes ∧
      maxDrawdown outcomes ≤ maxDrawdown (outcomes ++ later) := by
  have least := zeroOrPositive_maxDrawdown outcomes
  exact ⟨fun finite => ⟨isDeepestFall_maxDrawdown finite, maxDrawdown_eq_zero_iff finite⟩,
    least.isNaN_eq_false, least.nonneg, maxDrawdown_le_append outcomes later⟩

/-- A loss at the beginning is a fall from zero, here the deepest one. -/
theorem maxDrawdown_of_leading_loss :
    let outcome (r : Float) : Outcome := ⟨"", .unknown, some (.ofFloat r), none, none, none, none⟩
    let outcomes := [outcome (-1.0), outcome 2.0, outcome (-0.5)]
    (∀ place ∈ runningSums outcomes, place.isFinite = true) ∧
      IsDeepestFall (runningSums outcomes) (maxDrawdown outcomes) ∧
      maxDrawdown outcomes = 1.0 ∧ ¬ (runningSums outcomes).Pairwise (· ≤ ·) := by
  intro outcome outcomes
  have finite : ∀ place ∈ runningSums outcomes, place.isFinite = true := by decide
  have value : maxDrawdown outcomes = 1.0 := by decide
  rcases (maxDrawdown_measures_falls outcomes []).1 finite with ⟨isDeepest, zero_iff⟩
  refine ⟨finite, isDeepest, value, fun rises => ?_⟩
  rw [zero_iff.mpr rises] at value
  exact absurd value (by decide)

end SignalReplay.Metrics
