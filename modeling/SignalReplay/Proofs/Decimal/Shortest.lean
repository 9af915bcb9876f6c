import SignalReplay.Decimal.Layout
import SignalReplay.Proofs.Decimal.Digits
import SignalReplay.Proofs.Decimal.Nearest

/-!
The shortest digits read back. Whatever numeral the search settles on is one whose nearest pattern
is the pattern it was made from, and a layout writes the digits of that numeral without the zeros
at its end.
-/

namespace SignalReplay.Decimal

/-! ## Search -/

theorem nearestBits_of_shorten? {tie : Tie} {bits exact dropped digits : Nat}
    {exponent shortened : Int}
    (found : shorten? tie bits exact exponent dropped = some (digits, shortened)) :
    nearestBits digits shortened = bits := by
  unfold shorten? at found
  dsimp only at found
  generalize exact / Nat.pow 10 dropped = below at found
  cases lower : nearestBits below (exponent + dropped) == bits with
  | false =>
      cases upper : nearestBits (below + 1) (exponent + dropped) == bits with
      | false =>
          rw [lower, upper] at found
          cases found
      | true =>
          rw [lower, upper] at found
          cases found
          exact beq_iff_eq.mp upper
  | true =>
      cases upper : nearestBits (below + 1) (exponent + dropped) == bits with
      | false =>
          rw [lower, upper] at found
          cases found
          exact beq_iff_eq.mp lower
      | true =>
          rw [lower, upper] at found
          -- An even choice is one of the two neighbours that were tried.
          have even : below + below % 2 = below ∨ below + below % 2 = below + 1 := by omega
          have either : digits = below ∨ digits = below + 1 := by
            dsimp only at found
            split at found <;> cases found
            · exact Or.inl rfl
            · exact Or.inr rfl
            · exact even
            · exact Or.inr rfl
          have shift : shortened = exponent + dropped := by
            dsimp only at found
            split at found <;> cases found <;> rfl
          rw [shift]
          rcases either with equal | equal
          · rw [equal]
            exact beq_iff_eq.mp lower
          · rw [equal]
            exact beq_iff_eq.mp upper

theorem nearestBits_shortest (tie : Tie) {bits : Nat} (positive : 0 < bits)
    (finite : bits < Binary64.infinityBits) :
    nearestBits (shortest tie bits).1 (shortest tie bits).2 = bits := by
  rw [shortest]
  dsimp only
  generalize search : List.findSome? _ _ = result
  cases result with
  | none => exact nearestBits_exactDigits positive finite
  | some numeral =>
      rcases List.exists_of_findSome?_eq_some search with ⟨kept, _, found⟩
      exact nearestBits_of_shorten? found

/-! ## Zeros at the end -/

/-- The digits that a layout writes: a numeral that names the pattern, with the power of ten of
its first digit, which is not zero. -/
structure Spells (bits : Nat) (digits : List Char) (power : Int) : Prop where
  all_digits : AllDigits digits
  not_empty : digits ≠ []
  head_not_zero : digits.head? ≠ some '0'
  reads_back : nearestBits (valueOfDigits digits) (power + 1 - digits.length) = bits

def spelled (digits : List Char) (power : Int) : ℚ :=
  valueOfDigits digits * 10 ^ (power + 1 - digits.length)

def shortestValue (tie : Tie) (bits : Nat) : ℚ :=
  (shortest tie bits).1 * 10 ^ (shortest tie bits).2

theorem dropZeros_append (digits : List Char) :
    ∃ zeros, digits =
      (digits.reverse.dropWhile (· == '0')).reverse ++ List.replicate zeros '0' := by
  have parts := List.takeWhile_append_dropWhile (p := (· == '0')) (l := digits.reverse)
  have zeros : digits.reverse.takeWhile (· == '0') =
      List.replicate (digits.reverse.takeWhile (· == '0')).length '0' := by
    apply List.eq_replicate_of_mem
    intro character member
    exact beq_iff_eq.mp (List.all_eq_true.mp List.all_takeWhile character member)
  refine ⟨(digits.reverse.takeWhile (· == '0')).length, ?_⟩
  have reversed := congrArg List.reverse parts
  rw [List.reverse_append, List.reverse_reverse, zeros, List.reverse_replicate] at reversed
  exact reversed.symm

/-- A layout writes digits that name the pattern, and no others than the shortest. -/
theorem magnitude_spells (layout : Layout) {bits : Nat} (positive : 0 < bits)
    (finite : bits < Binary64.infinityBits) :
    ∃ digits power, Spells bits digits power ∧
      spelled digits power = shortestValue layout.tie bits ∧
      layout.magnitude bits =
        if layout.isPositional power then positional layout.wholeTail digits (power + 1)
        else scientific layout.exponentPlus digits power := by
  have named := nearestBits_shortest layout.tie positive finite
  rcases shortest : shortest layout.tie bits with ⟨whole, exponent⟩
  rw [shortest] at named
  have whole_pos : 0 < whole := by
    apply Nat.pos_of_ne_zero
    intro zero
    rw [zero, nearestBits_eq_nearest, Nat.zero_mul, Binary64.nearest_zero] at named
    omega
  rcases dropZeros_append (Nat.toDigits 10 whole) with ⟨zeros, parts⟩
  have front := head?_toDigits whole_pos
  have spelled := valueOfDigits_toDigits whole
  have all := allDigits_toDigits whole
  refine ⟨((Nat.toDigits 10 whole).reverse.dropWhile (· == '0')).reverse,
    exponent + (Nat.toDigits 10 whole).length - 1, ?_, ?_, ?_⟩
  · generalize ((Nat.toDigits 10 whole).reverse.dropWhile (· == '0')).reverse = digits at parts ⊢
    rw [parts] at front spelled all ⊢
    constructor
    · intro character member
      exact all character (List.mem_append_left _ member)
    · intro empty
      rw [empty, List.nil_append, valueOfDigits_zeros] at spelled
      omega
    · intro zero
      rw [List.head?_append, zero] at front
      exact front rfl
    · rw [valueOfDigits_append_zeros] at spelled
      rw [← spelled, nearestBits_shift] at named
      rw [List.length_append, List.length_replicate]
      have power : exponent + ((digits.length + zeros : Nat) : Int) - 1 + 1 - digits.length =
          exponent + zeros := by omega
      rw [power]
      exact named
  · generalize ((Nat.toDigits 10 whole).reverse.dropWhile (· == '0')).reverse = digits at parts ⊢
    rw [parts, valueOfDigits_append_zeros] at spelled
    rw [parts, List.length_append, List.length_replicate, Decimal.spelled, shortestValue, shortest,
      ← spelled]
    push_cast
    rw [mul_assoc, ← zpow_natCast, ← zpow_add₀ (by norm_num)]
    congr 2
    omega
  · rw [Layout.magnitude, if_neg (Nat.ne_of_gt positive), shortest]

end SignalReplay.Decimal
