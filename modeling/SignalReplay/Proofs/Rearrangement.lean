import SignalReplay.Proofs.Sorting
import SignalReplay.Time.Instant

/-!
Records in another order. Where records of one timestamp keep their order, what is read from the
records sorts to the same list, since a stable sort leaves no other choice.
-/

namespace SignalReplay

theorem Instant.le_antisymm {left right : Instant} (notLater : left.le right = true)
    (notEarlier : right.le left = true) : left = right := by
  cases left
  cases right
  simp only [Instant.le, Instant.mk.injEq] at *
  grind

variable {Record Item : Type}

/-- The same records in an order that keeps those with one timestamp as they were. -/
structure Rearranged (timestampOf? : Record → Option Instant) (records others : List Record) :
    Prop where
  perm : others.Perm records
  kept : ∀ instant, others.filter (fun record => timestampOf? record = some instant) =
    records.filter fun record => timestampOf? record = some instant

namespace Rearranged

theorem swap {timestampOf? : Record → Option Instant} {first second : Record}
    (different : timestampOf? first ≠ timestampOf? second) (before rest : List Record) :
    Rearranged timestampOf? (before ++ first :: second :: rest)
      (before ++ second :: first :: rest) where
  perm := (List.Perm.swap first second rest).append_left before
  kept instant := by
    have notBoth : ¬ (timestampOf? first = some instant ∧ timestampOf? second = some instant) :=
      fun both => different (both.1.trans both.2.symm)
    by_cases isFirst : timestampOf? first = some instant
    · have notSecond : ¬ timestampOf? second = some instant := fun isSecond =>
        notBoth ⟨isFirst, isSecond⟩
      simp [isFirst, notSecond]
    · simp [List.filter_cons, isFirst]

variable {read? : Record → Option Item} {timestamp : Item → Instant}

theorem filter_alike_filterMap (item : Item) (records : List Record) :
    (records.filterMap read?).filter
        (Sorting.alike (fun left right => (timestamp left).le (timestamp right)) item) =
      (records.filter fun record =>
        (read? record).map timestamp = some (timestamp item)).filterMap read? := by
  rw [List.filter_filterMap, List.filterMap_filter]
  congr 1
  funext record
  cases read? record with
  | none => simp
  | some found =>
      by_cases same : timestamp found = timestamp item
      · have reflexive := Instant.le_total (timestamp item) (timestamp item)
        simp_all [Sorting.alike, Option.filter]
      · have different : Sorting.alike
            (fun left right => (timestamp left).le (timestamp right)) item found = false := by
          rw [Bool.eq_false_iff, Sorting.alike]
          intro both
          rw [Bool.and_eq_true] at both
          exact same (Instant.le_antisymm both.2 both.1)
        simp [same, different]

/-- Sorting what is read from the records undoes the rearrangement. -/
theorem mergeSort_filterMap {records others : List Record}
    (rearranged : Rearranged (fun record => (read? record).map timestamp) records others) :
    (others.filterMap read?).mergeSort (fun left right => (timestamp left).le (timestamp right)) =
      (records.filterMap read?).mergeSort
        (fun left right => (timestamp left).le (timestamp right)) := by
  have trans (left middle right : Item) := Instant.le_trans (timestamp left) (timestamp middle)
    (timestamp right)
  have total (left right : Item) := Instant.le_total (timestamp left) (timestamp right)
  apply Sorting.eq_mergeSort trans total (List.pairwise_mergeSort trans total _)
  intro item
  rw [Sorting.filter_alike_mergeSort trans total, filter_alike_filterMap,
    filter_alike_filterMap, rearranged.kept]

end Rearranged

end SignalReplay
