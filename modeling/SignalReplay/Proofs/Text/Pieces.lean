import Mathlib.Algebra.Ring.Nat
import Mathlib.Data.List.Basic

/-!
Texts of pieces that each end with a mark. Cutting such a text at its marks gives the pieces back if
none of them holds the mark, and more than there were otherwise.
-/

namespace SignalReplay.Text

variable {mark : Char} {pieces : List (List Char)}

@[simp]
theorem length_splitOn (mark : Char) (text : List Char) :
    (text.splitOn mark).length = text.count mark + 1 := by
  induction text with
  | nil => rfl
  | cons character rest induction =>
      rw [List.splitOn_cons_eq_if_modifyHead, List.count_cons]
      split
      · rw [List.length_cons, induction]
      · rw [List.length_modifyHead, induction, Nat.add_zero]

@[simp]
theorem splitOn_flatMap (mark : Char) (pieces : List (List Char)) :
    (pieces.flatMap (· ++ [mark])).splitOn mark = pieces.flatMap (·.splitOn mark) ++ [[]] := by
  induction pieces with
  | nil => rfl
  | cons piece pieces induction =>
      rw [List.flatMap_cons, List.append_assoc, List.singleton_append,
        List.splitOn_append_cons_self, induction, List.flatMap_cons, List.append_assoc]

theorem splitOn_flatMap_of_plain (plain : ∀ piece ∈ pieces, mark ∉ piece) :
    (pieces.flatMap (· ++ [mark])).splitOn mark = pieces ++ [[]] := by
  have alone : pieces.flatMap (·.splitOn mark) = pieces.flatMap fun piece => [piece] :=
    List.flatMap_congr fun piece member => List.splitOn_eq_singleton (plain piece member)
  rw [splitOn_flatMap, alone, List.flatMap_singleton']

theorem length_splitOn_flatMap (mark : Char) (pieces : List (List Char)) :
    ((pieces.flatMap (· ++ [mark])).splitOn mark).length =
      pieces.length + (pieces.map (·.count mark)).sum + 1 := by
  rw [splitOn_flatMap, List.length_append, List.length_singleton]
  congr 1
  induction pieces with
  | nil => rfl
  | cons piece pieces induction =>
      rw [List.flatMap_cons, List.length_append, induction, length_splitOn, List.length_cons,
        List.map_cons, List.sum_cons]
      omega

/-- There are as many pieces as before exactly if no piece holds the mark. -/
theorem length_splitOn_flatMap_iff :
    ((pieces.flatMap (· ++ [mark])).splitOn mark).length = pieces.length + 1 ↔
      ∀ piece ∈ pieces, mark ∉ piece := by
  rw [length_splitOn_flatMap, Nat.add_right_cancel_iff, Nat.add_eq_left,
    List.sum_eq_zero_iff_forall_eq_nat]
  simp only [List.forall_mem_map, List.count_eq_zero]

end SignalReplay.Text
