import SignalReplay.Proofs.Binary64.Fields

/-!
The order of floating-point numbers. Apart from the numbers that are undefined, a number is placed
by its magnitude pattern, counted downwards if its sign is negative.
-/

namespace SignalReplay.Binary64

open Float.Model Float.Model.UnpackedFloat

/-! ## Magnitudes -/

theorem compare_fields_of_lt {left right : Nat} (less : left < right) :
    (compare (exponent left) (exponent right)).then
      (compare (significand left) (significand right)) = .lt := by
  have exponents : exponent left < exponent right ∨
      exponent left = exponent right ∧ significand left < significand right := by
    unfold exponent significand leadingBit
    split <;> split <;> omega
  rcases exponents with smaller | ⟨equal, smaller⟩
  · rw [Int.compare_eq_lt.mpr smaller]
    rfl
  · rw [equal, Int.compare_eq_eq.mpr rfl, Nat.compare_eq_lt.mpr smaller]
    rfl

/-- Patterns are in the order of the magnitudes they stand for. -/
theorem compare_fields (left right : Nat) :
    (compare (exponent left) (exponent right)).then
      (compare (significand left) (significand right)) = compare left right := by
  rcases Nat.lt_trichotomy left right with less | equal | greater
  · rw [compare_fields_of_lt less, Nat.compare_eq_lt.mpr less]
  · subst equal
    rw [Int.compare_eq_eq.mpr rfl, Nat.compare_eq_eq.mpr rfl, Nat.compare_eq_eq.mpr rfl]
    rfl
  · have swapped := congrArg Ordering.swap (compare_fields_of_lt greater)
    rw [Ordering.swap_then, Int.compare_swap, Nat.compare_swap] at swapped
    rw [swapped, Nat.compare_eq_gt.mpr greater]
    rfl

inductive Kind : Nat → Prop
  | undefined {bits : Nat} (above : infinityBits < bits) : Kind bits
  | infinite : Kind infinityBits
  | finite {bits : Nat} (positive : 0 < bits) (below : bits < infinityBits) : Kind bits
  | zero : Kind 0

theorem kind (bits : Nat) : Kind bits := by
  rcases Nat.lt_trichotomy infinityBits bits with above | equal | below
  · exact .undefined above
  · exact equal ▸ .infinite
  · rcases Nat.eq_zero_or_pos bits with zero | positive
    · exact zero ▸ .zero
    · exact .finite positive below

theorem unpacked_undefined (negative : Bool) {bits : Nat} (undefined : infinityBits < bits) :
    unpacked negative bits = .notANumber :=
  if_pos undefined

@[simp]
theorem unpacked_infinityBits (negative : Bool) :
    unpacked negative infinityBits = .infinity (signOf negative) := rfl

@[simp]
theorem unpacked_zero (negative : Bool) : unpacked negative 0 = .zero (signOf negative) := rfl

theorem unpacked_finite (negative : Bool) {bits : Nat} (positive : 0 < bits)
    (finite : bits < infinityBits) :
    unpacked negative bits =
      .finite (signOf negative) (significand bits) (exponent bits) (significand_pos positive) := by
  rw [unpacked, if_neg (by omega), if_neg (by omega), dif_pos positive]

/-! ## Signed magnitudes -/

/-- The place of a sign and a magnitude pattern in the order of numbers. Both zeros have one. -/
def signedBits (negative : Bool) (bits : Nat) : Int :=
  if negative then -(bits : Int) else bits

@[simp]
theorem signedBits_positive (bits : Nat) : signedBits false bits = bits := rfl

@[simp]
theorem signedBits_negative (bits : Nat) : signedBits true bits = -(bits : Int) := rfl

theorem compare_positive (left right : Nat) :
    compare (signedBits false left) (signedBits false right) = compare left right := by
  rcases Nat.lt_trichotomy left right with less | equal | greater
  · rw [Nat.compare_eq_lt.mpr less]
    exact Int.compare_eq_lt.mpr (by simpa using less)
  · rw [equal, Int.compare_eq_eq.mpr rfl, Nat.compare_eq_eq.mpr rfl]
  · rw [Nat.compare_eq_gt.mpr greater]
    exact Int.compare_eq_gt.mpr (by simpa using greater)

theorem compare_negative (left right : Nat) :
    compare (signedBits true left) (signedBits true right) = (compare left right).swap := by
  rcases Nat.lt_trichotomy left right with less | equal | greater
  · rw [Nat.compare_eq_lt.mpr less]
    exact Int.compare_eq_gt.mpr (by simpa using less)
  · rw [equal, Int.compare_eq_eq.mpr rfl, Nat.compare_eq_eq.mpr rfl]
    rfl
  · rw [Nat.compare_eq_gt.mpr greater]
    exact Int.compare_eq_lt.mpr (by simpa using greater)

theorem compare_negative_positive {left right : Nat} (nonzero : 0 < left ∨ 0 < right) :
    compare (signedBits true left) (signedBits false right) = .lt :=
  Int.compare_eq_lt.mpr (by simp only [signedBits_positive, signedBits_negative]; omega)

theorem compare_positive_negative {left right : Nat} (nonzero : 0 < left ∨ 0 < right) :
    compare (signedBits false left) (signedBits true right) = .gt :=
  Int.compare_eq_gt.mpr (by simp only [signedBits_positive, signedBits_negative]; omega)

theorem compare_unpacked_positive {left right : Nat} (leftDefined : left ≤ infinityBits)
    (rightDefined : right ≤ infinityBits) :
    (unpacked false left).compare (unpacked false right) = some (compare left right) := by
  have infinite : 0 < infinityBits := by decide
  cases kind left with
  | undefined above => omega
  | infinite =>
      cases kind right with
      | undefined above => omega
      | infinite => rfl
      | finite positive below =>
          rw [unpacked_finite _ positive below, Nat.compare_eq_gt.mpr below]
          rfl
      | zero =>
          rw [Nat.compare_eq_gt.mpr infinite]
          rfl
  | finite positive below =>
      rw [unpacked_finite _ positive below]
      cases kind right with
      | undefined above => omega
      | infinite =>
          rw [Nat.compare_eq_lt.mpr below]
          rfl
      | finite otherPositive otherBelow =>
          rw [unpacked_finite _ otherPositive otherBelow, ← compare_fields]
          rfl
      | zero =>
          rw [Nat.compare_eq_gt.mpr positive]
          rfl
  | zero =>
      cases kind right with
      | undefined above => omega
      | infinite =>
          rw [Nat.compare_eq_lt.mpr infinite]
          rfl
      | finite positive below =>
          rw [unpacked_finite _ positive below, Nat.compare_eq_lt.mpr positive]
          rfl
      | zero => rfl

theorem compare_unpacked_negative (left right : Nat) :
    (unpacked true left).compare (unpacked true right) =
      ((unpacked false left).compare (unpacked false right)).map Ordering.swap := by
  -- Both signs stand for the same kinds of numbers, and each pair of kinds is compared outright.
  unfold unpacked
  repeat' split
  all_goals rfl

theorem compare_unpacked_opposite {left right : Nat} (leftDefined : left ≤ infinityBits)
    (rightDefined : right ≤ infinityBits) (nonzero : 0 < left ∨ 0 < right) :
    (unpacked true left).compare (unpacked false right) = some .lt ∧
      (unpacked false left).compare (unpacked true right) = some .gt := by
  constructor
  all_goals
    unfold unpacked
    repeat' split
    all_goals first
      | rfl
      | omega

theorem compare_unpacked (leftNegative rightNegative : Bool) {left right : Nat}
    (leftDefined : left ≤ infinityBits) (rightDefined : right ≤ infinityBits) :
    (unpacked leftNegative left).compare (unpacked rightNegative right) =
      some (compare (signedBits leftNegative left) (signedBits rightNegative right)) := by
  have positive := compare_unpacked_positive leftDefined rightDefined
  by_cases zeros : left = 0 ∧ right = 0
  · rw [zeros.1, zeros.2]
    cases leftNegative <;> cases rightNegative <;> rfl
  have nonzero : 0 < left ∨ 0 < right := by omega
  have opposite := compare_unpacked_opposite leftDefined rightDefined nonzero
  cases leftNegative with
  | false =>
      cases rightNegative with
      | false => rw [positive, compare_positive]
      | true => rw [opposite.2, compare_positive_negative nonzero]
  | true =>
      cases rightNegative with
      | false => rw [opposite.1, compare_negative_positive nonzero]
      | true =>
          rw [compare_unpacked_negative, positive, compare_negative]
          rfl

/-! ## Numbers -/

def orderKey (value : Float) : Int :=
  signedBits (isNegative value) (magnitudeBits value)

theorem compare_of_defined {left right : Float} (leftDefined : left.isNaN = false)
    (rightDefined : right.isNaN = false) :
    left.toModel.compare right.toModel = some (compare (orderKey left) (orderKey right)) := by
  rw [isNaN_eq, decide_eq_false_iff_not, Nat.not_lt] at leftDefined rightDefined
  unfold Float.Model.compare
  rw [unpack_toModel, unpack_toModel]
  exact compare_unpacked _ _ leftDefined rightDefined

theorem compare_of_undefined {left right : Float}
    (undefined : left.isNaN = true ∨ right.isNaN = true) :
    left.toModel.compare right.toModel = none := by
  rw [isNaN_eq, isNaN_eq, decide_eq_true_eq, decide_eq_true_eq] at undefined
  unfold Float.Model.compare
  rw [unpack_toModel, unpack_toModel]
  rcases undefined with undefined | undefined
  · rw [unpacked_undefined _ undefined]
    rfl
  · rw [unpacked_undefined _ undefined]
    cases unpacked (isNegative left) (magnitudeBits left) with
    | infinity sign => cases sign <;> rfl
    | notANumber => rfl
    | zero sign => rfl
    | finite sign mantissa exponent positive => rfl

theorem defined_or_undefined (left right : Float) :
    (left.isNaN = false ∧ right.isNaN = false) ∨ (left.isNaN = true ∨ right.isNaN = true) := by
  cases left.isNaN <;> cases right.isNaN <;> decide

theorem lt_iff {left right : Float} :
    left < right ↔
      left.isNaN = false ∧ right.isNaN = false ∧ orderKey left < orderKey right := by
  have model : left < right ↔ (left.toModel.compare right.toModel == some .lt) = true :=
    decide_eq_true_iff
  rw [model]
  rcases defined_or_undefined left right with ⟨leftDefined, rightDefined⟩ | undefined
  · rw [compare_of_defined leftDefined rightDefined]
    simp only [leftDefined, rightDefined, true_and, Option.some_beq_some, beq_iff_eq,
      Int.compare_eq_lt]
  · rw [compare_of_undefined undefined]
    grind

theorem le_iff {left right : Float} :
    left ≤ right ↔
      left.isNaN = false ∧ right.isNaN = false ∧ orderKey left ≤ orderKey right := by
  have model : left ≤ right ↔ (left.toModel.compare right.toModel).any (·.isLE) = true :=
    decide_eq_true_iff
  rw [model]
  rcases defined_or_undefined left right with ⟨leftDefined, rightDefined⟩ | undefined
  · rw [compare_of_defined leftDefined rightDefined]
    simp only [leftDefined, rightDefined, true_and, Option.any_some, Int.isLE_compare]
  · rw [compare_of_undefined undefined]
    grind

theorem not_lt_of_isNaN {left right : Float} (undefined : left.isNaN = true ∨ right.isNaN = true) :
    ¬ left < right := by
  rw [lt_iff]
  rintro ⟨leftDefined, rightDefined, -⟩
  simp only [leftDefined, rightDefined, Bool.false_eq_true, or_self] at undefined

theorem not_le_of_isNaN {left right : Float} (undefined : left.isNaN = true ∨ right.isNaN = true) :
    ¬ left ≤ right := by
  rw [le_iff]
  rintro ⟨leftDefined, rightDefined, -⟩
  simp only [leftDefined, rightDefined, Bool.false_eq_true, or_self] at undefined

theorem le_of_lt {left right : Float} (less : left < right) : left ≤ right := by
  rw [lt_iff] at less
  exact le_iff.mpr ⟨less.1, less.2.1, Int.le_of_lt less.2.2⟩

theorem not_lt_of_le {left right : Float} (le : left ≤ right) : ¬ right < left := by
  rw [le_iff] at le
  rw [lt_iff]
  omega

theorem le_self {value : Float} (defined : value.isNaN = false) : value ≤ value :=
  le_iff.mpr ⟨defined, defined, Int.le_refl _⟩

theorem not_le_iff {left right : Float} (leftDefined : left.isNaN = false)
    (rightDefined : right.isNaN = false) : ¬ left ≤ right ↔ right < left := by
  simp only [le_iff, lt_iff, leftDefined, rightDefined, true_and, Int.not_le]

theorem not_lt_iff {left right : Float} (leftDefined : left.isNaN = false)
    (rightDefined : right.isNaN = false) : ¬ left < right ↔ right ≤ left := by
  simp only [le_iff, lt_iff, leftDefined, rightDefined, true_and, Int.not_lt]

theorem lt_of_lt_of_lt {left middle right : Float} (first : left < middle)
    (second : middle < right) : left < right := by
  rw [lt_iff] at first second ⊢
  exact ⟨first.1, second.2.1, Int.lt_trans first.2.2 second.2.2⟩

instance transLt : @Trans Float Float Float (· < ·) (· < ·) (· < ·) :=
  ⟨lt_of_lt_of_lt⟩

theorem le_of_le_of_le {left middle right : Float} (first : left ≤ middle)
    (second : middle ≤ right) : left ≤ right := by
  rw [le_iff] at first second ⊢
  exact ⟨first.1, second.2.1, Int.le_trans first.2.2 second.2.2⟩

theorem beq_iff {left right : Float} :
    (left == right) = true ↔
      left.isNaN = false ∧ right.isNaN = false ∧ orderKey left = orderKey right := by
  change ((left.toModel.compare right.toModel == some .eq) = true) ↔ _
  rcases defined_or_undefined left right with ⟨leftDefined, rightDefined⟩ | undefined
  · rw [compare_of_defined leftDefined rightDefined]
    simp only [leftDefined, rightDefined, true_and, Option.some_beq_some, beq_iff_eq,
      Int.compare_eq_eq]
  · rw [compare_of_undefined undefined]
    grind

theorem beq_iff_le_and_le {left right : Float} :
    (left == right) = true ↔ left ≤ right ∧ right ≤ left := by
  rw [beq_iff, le_iff, le_iff]
  constructor
  · rintro ⟨leftDefined, rightDefined, equal⟩
    exact ⟨⟨leftDefined, rightDefined, Int.le_of_eq equal⟩, rightDefined, leftDefined,
      Int.le_of_eq equal.symm⟩
  · rintro ⟨⟨leftDefined, rightDefined, le⟩, -, -, ge⟩
    exact ⟨leftDefined, rightDefined, Int.le_antisymm le ge⟩

/-- Numbers that share a place are equal, apart from the two zeros. -/
theorem eq_of_orderKey_eq {left right : Float} (equal : orderKey left = orderKey right)
    (nonzero : orderKey left ≠ 0) : left = right := by
  unfold orderKey at equal nonzero
  have both : isNegative left = isNegative right ∧ magnitudeBits left = magnitudeBits right := by
    cases leftSign : isNegative left <;> cases rightSign : isNegative right <;>
      simp only [leftSign, rightSign, signedBits_positive, signedBits_negative] at equal nonzero <;>
      grind
  exact ext_fields both.1 both.2

end SignalReplay.Binary64
