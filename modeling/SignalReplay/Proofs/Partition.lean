import Mathlib.Algebra.Ring.Nat
import SignalReplay.Partition

/-!
What a partition holds. Its keys rise, they are those of the members of the list, and the class of
a key is the list of all members with that key in the order of the list.
-/

namespace SignalReplay.Partition

open Std

variable {κ α β : Type} [Ord κ]

def Rising (groups : List (κ × List α)) : Prop :=
  groups.Pairwise fun left right => compare left.1 right.1 = .lt

def membersOf (key : κ) : List (κ × List α) → List α
  | [] => []
  | (other, members) :: rest =>
    if compare key other = .eq then members else membersOf key rest

/-! ## Keys -/

theorem mem_keys_insert [LawfulEqOrd κ] {key other : κ} {member : α}
    {groups : List (κ × List α)} :
    other ∈ (insert key member groups).map Prod.fst ↔
      other = key ∨ other ∈ groups.map Prod.fst := by
  induction groups with
  | nil => simp [insert]
  | cons group rest induction =>
      rcases group with ⟨head, members⟩
      unfold insert
      cases order : compare key head with
      | lt => simp
      | eq =>
          have equal : key = head := LawfulEqOrd.eq_of_compare order
          simp [equal]
      | gt =>
          simp only [List.map_cons, List.mem_cons, induction]
          exact or_left_comm

theorem rising_insert [TransOrd κ] [LawfulEqOrd κ] (key : κ) (member : α)
    {groups : List (κ × List α)} (rising : Rising groups) :
    Rising (insert key member groups) := by
  induction groups with
  | nil => exact List.pairwise_singleton _ _
  | cons group rest induction =>
      rcases group with ⟨head, members⟩
      rcases List.pairwise_cons.mp rising with ⟨above, restRising⟩
      unfold insert
      cases order : compare key head with
      | lt =>
          refine List.pairwise_cons.mpr ⟨?_, rising⟩
          intro other found
          rcases List.mem_cons.mp found with equal | later
          · rw [equal]
            exact order
          · exact TransCmp.lt_trans order (above other later)
      | eq => exact List.pairwise_cons.mpr ⟨above, restRising⟩
      | gt =>
          refine List.pairwise_cons.mpr ⟨?_, induction restRising⟩
          intro other found
          rcases mem_keys_insert.mp (List.mem_map_of_mem found) with equal | later
          · rw [equal]
            exact OrientedCmp.lt_of_gt order
          · rcases List.mem_map.mp later with ⟨group, present, equal⟩
            rw [← equal]
            exact above group present

/-! ## Classes -/

theorem membersOf_of_lt (key : κ) {groups : List (κ × List α)}
    (below : ∀ group ∈ groups, compare key group.1 = .lt) : membersOf key groups = [] := by
  induction groups with
  | nil => rfl
  | cons group rest induction =>
      rw [membersOf, below group List.mem_cons_self]
      exact induction fun other member => below other (List.mem_cons_of_mem _ member)

theorem membersOf_of_mem [TransOrd κ] {key : κ} {members : List α}
    {groups : List (κ × List α)} (rising : Rising groups) (found : (key, members) ∈ groups) :
    membersOf key groups = members := by
  induction groups with
  | nil => cases found
  | cons group rest induction =>
      rcases List.pairwise_cons.mp rising with ⟨above, restRising⟩
      rw [membersOf]
      rcases List.mem_cons.mp found with equal | later
      · rw [← equal, if_pos ReflOrd.compare_self]
      · have order := OrientedCmp.gt_of_lt (above _ later)
        rw [order, if_neg (by decide)]
        exact induction restRising later

theorem membersOf_insert [TransOrd κ] [LawfulEqOrd κ] (key other : κ) (member : α)
    {groups : List (κ × List α)} (rising : Rising groups) :
    membersOf other (insert key member groups) =
      if compare other key = .eq then member :: membersOf key groups
      else membersOf other groups := by
  induction groups with
  | nil => rfl
  | cons group rest induction =>
      rcases group with ⟨head, members⟩
      rcases List.pairwise_cons.mp rising with ⟨above, restRising⟩
      rw [insert]
      cases order : compare key head with
      | lt =>
          have absent : membersOf key ((head, members) :: rest) = [] := by
            apply membersOf_of_lt
            intro group found
            rcases List.mem_cons.mp found with equal | later
            · rw [equal]
              exact order
            · exact TransCmp.lt_trans order (above group later)
          rw [absent]
          rfl
      | eq =>
          have equal : key = head := LawfulEqOrd.eq_of_compare order
          subst equal
          rw [membersOf, membersOf, membersOf, if_pos ReflOrd.compare_self]
          split <;> rfl
      | gt =>
          simp only [membersOf, induction restRising, order]
          by_cases same : compare other key = .eq
          · rw [LawfulEqOrd.eq_of_compare same, order, if_neg (by decide)]
            rfl
          · rw [if_neg same, if_neg same]

/-! ## Partitions -/

theorem rising_classes [TransOrd κ] [LawfulEqOrd κ] (keyOf : α → κ) (list : List α) :
    Rising (classes keyOf list) := by
  induction list with
  | nil => exact List.Pairwise.nil
  | cons member rest induction => exact rising_insert _ _ induction

@[simp]
theorem mem_keys_classes [LawfulEqOrd κ] {keyOf : α → κ} {list : List α} {key : κ} :
    key ∈ (classes keyOf list).map Prod.fst ↔ ∃ member ∈ list, keyOf member = key := by
  induction list with
  | nil => simp [classes]
  | cons member rest induction =>
      have step : classes keyOf (member :: rest) =
          insert (keyOf member) member (classes keyOf rest) := rfl
      rw [step, mem_keys_insert, induction]
      simp only [List.mem_cons, exists_eq_or_imp]
      exact or_congr_left eq_comm

@[simp]
theorem membersOf_classes [TransOrd κ] [LawfulEqOrd κ] [DecidableEq κ] (keyOf : α → κ)
    (list : List α) (key : κ) :
    membersOf key (classes keyOf list) = list.filter fun member => keyOf member = key := by
  induction list with
  | nil => rfl
  | cons member rest induction =>
      have step : classes keyOf (member :: rest) =
          insert (keyOf member) member (classes keyOf rest) := rfl
      rw [step, membersOf_insert _ _ _ (rising_classes keyOf rest)]
      by_cases same : keyOf member = key
      · rw [if_pos (same ▸ ReflOrd.compare_self), same, induction,
          List.filter_cons_of_pos (by simpa using same)]
      · rw [if_neg fun equal => same (LawfulEqOrd.eq_of_compare equal).symm, induction,
          List.filter_cons_of_neg (by simpa using same)]

theorem eq_filter_of_mem_classes [TransOrd κ] [LawfulEqOrd κ] [DecidableEq κ] {keyOf : α → κ}
    {list : List α} {key : κ} {members : List α} (found : (key, members) ∈ classes keyOf list) :
    members = list.filter fun member => keyOf member = key := by
  rw [← membersOf_classes, membersOf_of_mem (rising_classes keyOf list) found]

theorem nodup_keys_classes [TransOrd κ] [LawfulEqOrd κ] (keyOf : α → κ) (list : List α) :
    ((classes keyOf list).map Prod.fst).Nodup := by
  refine List.pairwise_map.mpr ((rising_classes keyOf list).imp ?_)
  intro left right less equal
  rw [equal, ReflOrd.compare_self] at less
  contradiction

/-! ## Figures that add up -/

/-- A figure of lists that adds up when lists are put together. -/
def Additive (figure : List α → Nat) : Prop :=
  ∀ left right, figure (left ++ right) = figure left + figure right

theorem Additive.nil {figure : List α → Nat} (additive : Additive figure) : figure [] = 0 := by
  have twice := additive [] []
  rw [List.append_nil] at twice
  omega

theorem Additive.cons {figure : List α → Nat} (additive : Additive figure) (member : α)
    (members : List α) : figure (member :: members) = figure [member] + figure members :=
  additive [member] members

theorem additive_length : Additive fun members : List α => members.length :=
  fun _ _ => List.length_append

theorem additive_countP (test : α → Bool) : Additive fun members => members.countP test :=
  fun _ _ => List.countP_append

theorem Additive.map {figure : List β → Nat} (additive : Additive figure) (view : α → β) :
    Additive fun members => figure (members.map view) := by
  intro left right
  simp only [List.map_append]
  exact additive _ _

theorem Additive.filterMap {figure : List β → Nat} (additive : Additive figure)
    (view : α → Option β) : Additive fun members => figure (members.filterMap view) := by
  intro left right
  simp only [List.filterMap_append]
  exact additive _ _

theorem sum_insert {figure : List α → Nat} (additive : Additive figure) (key : κ) (member : α)
    (groups : List (κ × List α)) :
    ((insert key member groups).map fun group => figure group.2).sum =
      figure [member] + (groups.map fun group => figure group.2).sum := by
  induction groups with
  | nil => simp [insert]
  | cons group rest induction =>
      rcases group with ⟨head, members⟩
      unfold insert
      cases compare key head with
      | lt => simp
      | eq => simp [additive.cons member members, Nat.add_assoc]
      | gt => simp [induction, Nat.add_left_comm]

theorem sum_classes {figure : List α → Nat} (additive : Additive figure) (keyOf : α → κ)
    (list : List α) :
    ((classes keyOf list).map fun group => figure group.2).sum = figure list := by
  induction list with
  | nil => simp [classes, additive.nil]
  | cons member rest induction =>
      have step : classes keyOf (member :: rest) =
          insert (keyOf member) member (classes keyOf rest) := rfl
      rw [step, sum_insert additive, induction, additive.cons member rest]

end SignalReplay.Partition
