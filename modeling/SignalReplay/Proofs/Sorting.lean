/-!
Stable sorting. Elements that compare as equal form a class, and sorting keeps the order inside
every class; a sorted list is known from its classes alone. Whatever else puts the elements in
order without disturbing the classes is therefore the same sort.
-/

namespace SignalReplay.Sorting

variable {Element : Type} {le : Element → Element → Bool}

def alike (le : Element → Element → Bool) (left right : Element) : Bool :=
  le left right && le right left

theorem alike_self (total : ∀ left right, (le left right || le right left) = true)
    (element : Element) : alike le element element = true := by
  have reflexive := total element element
  rw [Bool.or_self] at reflexive
  rw [alike, reflexive, Bool.and_self]

theorem pairwise_filter_alike
    (trans : ∀ left middle right, le left middle = true → le middle right = true →
      le left right = true) (element : Element) (elements : List Element) :
    (elements.filter (alike le element)).Pairwise fun left right => le left right = true := by
  rw [List.pairwise_filter]
  apply List.pairwise_of_forall
  intro left right leftAlike rightAlike
  rw [alike, Bool.and_eq_true] at leftAlike rightAlike
  exact trans left element right leftAlike.2 rightAlike.1

/-- Sorting keeps the order of the elements that compare as equal. -/
theorem filter_alike_mergeSort
    (trans : ∀ left middle right, le left middle = true → le middle right = true →
      le left right = true)
    (total : ∀ left right, (le left right || le right left) = true)
    (element : Element) (elements : List Element) :
    (elements.mergeSort le).filter (alike le element) = elements.filter (alike le element) := by
  have kept : (elements.filter (alike le element)).Sublist (elements.mergeSort le) :=
    List.sublist_mergeSort trans total (pairwise_filter_alike trans element elements)
      List.filter_sublist
  have filtered := kept.filter (alike le element)
  rw [List.filter_filter, List.filter_congr fun _ _ => Bool.and_self _] at filtered
  exact (filtered.eq_of_length
    ((List.mergeSort_perm elements le).filter _).length_eq.symm).symm

theorem head_eq_of_classes {left right : Element} {lefts rights : List Element}
    (total : ∀ left right, (le left right || le right left) = true)
    (leftSorted : (left :: lefts).Pairwise fun left right => le left right = true)
    (rightSorted : (right :: rights).Pairwise fun left right => le left right = true)
    (classes : ∀ element, (left :: lefts).filter (alike le element) =
      (right :: rights).filter (alike le element)) : left = right := by
  have reflexive (element : Element) : le element element = true := by
    simpa using total element element
  have rightFound : right ∈ left :: lefts := by
    have member : right ∈ (right :: rights).filter (alike le right) :=
      List.mem_filter.mpr ⟨List.mem_cons_self, alike_self total right⟩
    rw [← classes right] at member
    exact (List.mem_filter.mp member).1
  have leftFound : left ∈ right :: rights := by
    have member : left ∈ (left :: lefts).filter (alike le left) :=
      List.mem_filter.mpr ⟨List.mem_cons_self, alike_self total left⟩
    rw [classes left] at member
    exact (List.mem_filter.mp member).1
  have leftFirst : le left right = true := by
    rcases List.mem_cons.mp rightFound with equal | later
    · rw [equal]
      exact reflexive left
    · exact List.rel_of_pairwise_cons leftSorted later
  have rightFirst : le right left = true := by
    rcases List.mem_cons.mp leftFound with equal | later
    · rw [equal]
      exact reflexive right
    · exact List.rel_of_pairwise_cons rightSorted later
  have heads := classes left
  rw [List.filter_cons_of_pos (alike_self total left),
    List.filter_cons_of_pos (by rw [alike, leftFirst, rightFirst, Bool.and_self])] at heads
  exact (List.cons.inj heads).1

/-- A sorted list is known from the order inside its classes. -/
theorem eq_of_classes {lefts rights : List Element}
    (total : ∀ left right, (le left right || le right left) = true)
    (leftSorted : lefts.Pairwise fun left right => le left right = true)
    (rightSorted : rights.Pairwise fun left right => le left right = true)
    (classes : ∀ element, lefts.filter (alike le element) = rights.filter (alike le element)) :
    lefts = rights := by
  induction lefts generalizing rights with
  | nil =>
      cases rights with
      | nil => rfl
      | cons right rights =>
          have member := classes right
          rw [List.filter_cons_of_pos (alike_self total right)] at member
          exact absurd member (by simp)
  | cons left lefts induction =>
      cases rights with
      | nil =>
          have member := classes left
          rw [List.filter_cons_of_pos (alike_self total left)] at member
          exact absurd member (by simp)
      | cons right rights =>
          have heads := head_eq_of_classes total leftSorted rightSorted classes
          subst heads
          congr 1
          apply induction (List.Pairwise.of_cons leftSorted) (List.Pairwise.of_cons rightSorted)
          intro element
          have class' := classes element
          rw [List.filter_cons, List.filter_cons] at class'
          split at class'
          · exact (List.cons.inj class').2
          · exact class'

theorem eq_mergeSort
    (trans : ∀ left middle right, le left middle = true → le middle right = true →
      le left right = true)
    (total : ∀ left right, (le left right || le right left) = true)
    {sorted elements : List Element}
    (ordered : sorted.Pairwise fun left right => le left right = true)
    (classes : ∀ element,
      sorted.filter (alike le element) = elements.filter (alike le element)) :
    sorted = elements.mergeSort le := by
  apply eq_of_classes total ordered (List.pairwise_mergeSort trans total elements)
  intro element
  rw [filter_alike_mergeSort trans total, classes]

/-- Where no two elements compare as equal, a list in order is the sort of every arrangement of it. -/
theorem mergeSort_eq_of_perm
    (trans : ∀ left middle right, le left middle = true → le middle right = true →
      le left right = true)
    (total : ∀ left right, (le left right || le right left) = true)
    {elements sorted : List Element} (arranged : elements.Perm sorted)
    (ordered : sorted.Pairwise fun left right => le left right = true)
    (apart : ∀ left ∈ sorted, ∀ right ∈ sorted, alike le left right = true → left = right) :
    elements.mergeSort le = sorted := by
  have perm := (List.mergeSort_perm elements le).trans arranged
  refine List.Perm.eq_of_pairwise ?_ (List.pairwise_mergeSort trans total elements) ordered perm
  intro left right leftFound rightFound first second
  exact apart left (perm.mem_iff.mp leftFound) right rightFound (by rw [alike, first, second]; rfl)

theorem filter_mergeSort
    (trans : ∀ left middle right, le left middle = true → le middle right = true →
      le left right = true)
    (total : ∀ left right, (le left right || le right left) = true)
    (keep : Element → Bool) (elements : List Element) :
    (elements.mergeSort le).filter keep = (elements.filter keep).mergeSort le := by
  apply eq_mergeSort trans total ((List.pairwise_mergeSort trans total elements).filter keep)
  intro element
  rw [List.filter_filter, List.filter_filter,
    List.filter_congr fun _ _ => Bool.and_comm _ _, ← List.filter_filter,
    filter_alike_mergeSort trans total, List.filter_filter]
  exact List.filter_congr fun _ _ => Bool.and_comm _ _

theorem mergeSort_append
    (trans : ∀ left middle right, le left middle = true → le middle right = true →
      le left right = true)
    (total : ∀ left right, (le left right || le right left) = true)
    {elements added front back : List Element} (sorted : elements.mergeSort le = front ++ back)
    (behind : ∀ first ∈ front, ∀ new ∈ added, le first new = true) :
    (elements ++ added).mergeSort le = front ++ (back ++ added).mergeSort le := by
  have ordered := List.pairwise_mergeSort trans total elements
  rw [sorted, List.pairwise_append] at ordered
  rcases ordered with ⟨frontOrdered, -, across⟩
  symm
  apply eq_mergeSort trans total
  · refine List.pairwise_append.mpr
      ⟨frontOrdered, List.pairwise_mergeSort trans total _, ?_⟩
    intro first inFront last inRest
    rcases List.mem_append.mp (List.mem_mergeSort.mp inRest) with inBack | isNew
    · exact across first inFront last inBack
    · exact behind first inFront last isNew
  · intro element
    have classes := filter_alike_mergeSort trans total element elements
    rw [sorted, List.filter_append] at classes
    rw [List.filter_append, filter_alike_mergeSort trans total, List.filter_append,
      List.filter_append, ← classes, List.append_assoc]

theorem find?_of_pairwise (total : ∀ left right, (le left right || le right left) = true)
    {sorted : List Element} (ordered : sorted.Pairwise fun left right => le left right = true)
    {test : Element → Bool} {element : Element} (member : element ∈ sorted)
    (passes : test element = true) :
    ∃ first, sorted.find? test = some first ∧ le first element = true := by
  induction sorted with
  | nil => cases member
  | cons head rest induction =>
      rcases List.pairwise_cons.mp ordered with ⟨least, restOrdered⟩
      cases headPasses : test head with
      | true =>
          refine ⟨head, List.find?_cons_of_pos headPasses, ?_⟩
          rcases List.mem_cons.mp member with equal | later
          · simpa [equal] using total head head
          · exact least element later
      | false =>
          rw [List.find?_cons_of_neg (by simp [headPasses])]
          rcases List.mem_cons.mp member with equal | later
          · simp [equal, headPasses] at passes
          · exact induction restOrdered later

theorem eq_of_pairwise_before {before : Element → Element → Prop} {lefts rights : List Element}
    (asymm : ∀ left ∈ lefts, ∀ right ∈ lefts, before left right → ¬ before right left)
    (leftOrdered : lefts.Pairwise before) (rightOrdered : rights.Pairwise before)
    (same : ∀ element, element ∈ rights ↔ element ∈ lefts) : rights = lefts := by
  have nodup {list : List Element} (found : ∀ element ∈ list, element ∈ lefts)
      (ordered : list.Pairwise before) : list.Nodup := by
    refine ordered.imp_of_mem fun leftFound _ comes equal => ?_
    subst equal
    exact asymm _ (found _ leftFound) _ (found _ leftFound) comes comes
  have arranged : rights.Perm lefts :=
    (List.perm_ext_iff_of_nodup (nodup (fun element => (same element).mp) rightOrdered)
      (nodup (fun _ found => found) leftOrdered)).mpr same
  refine List.Perm.eq_of_pairwise ?_ rightOrdered leftOrdered arranged
  intro left right leftFound rightFound comes otherComes
  exact absurd otherComes (asymm left ((same left).mp leftFound) right rightFound comes)

end SignalReplay.Sorting
