import SignalReplay.Decimal.Fixed
import SignalReplay.Decimal.Numeral
import SignalReplay.Proofs.Decimal.Value

/-!
Numbers with a fixed count of decimal places. The text of a finite number spells the nearest
multiple of the last place, and the even one of two that are equally near.
-/

namespace SignalReplay

open Binary64

namespace Numeral

/-- The number that a text spells. -/
def Spells (text : String) (x : ℚ) : Prop :=
  ∃ decimal : Decimal, decimal? (sign text.toList).1 (sign text.toList).2 = some decimal ∧
    decimal.toRat = x

end Numeral

namespace Decimal

theorem isNearestEven_inUnits (places bits : ℕ) :
    IsNearestEven (magnitude bits * 10 ^ places) (inUnits places bits) := by
  rw [← exactDigits_value bits]
  unfold inUnits
  dsimp only
  generalize (exactDigits bits).1 = digits
  generalize (exactDigits bits).2 = exponent
  have quotient : (digits : ℚ) * 10 ^ exponent * 10 ^ places =
      (digits * 10 ^ (exponent + places).toNat : ℕ) / (10 ^ (-(exponent + places)).toNat : ℕ) := by
    push_cast
    rw [mul_assoc, ← zpow_natCast, ← ten_zpow_add, zpow_eq_div (by norm_num), mul_div_assoc]
  rw [quotient]
  exact isNearestEven_divideToEven _ (Nat.pow_pos (by decide))

variable {places : ℕ}

def padded (places units : ℕ) : List Char :=
  List.replicate (places + 1 - (Nat.toDigits 10 units).length) '0' ++ Nat.toDigits 10 units

theorem allDigits_padded (places units : ℕ) : AllDigits (padded places units) :=
  (allDigits_zeros _).append (allDigits_toDigits units)

theorem lt_length_padded (places units : ℕ) : places < (padded places units).length := by
  rw [padded, List.length_append, List.length_replicate]
  omega

@[simp]
theorem valueOfDigits_padded (places units : ℕ) : valueOfDigits (padded places units) = units := by
  rw [padded, valueOfDigits_zeros_append, valueOfDigits_toDigits]

theorem writeUnits_eq (positive : 0 < places) (units : ℕ) :
    writeUnits places units =
      (padded places units).take ((padded places units).length - places) ++
        '.' :: (padded places units).drop ((padded places units).length - places) := by
  rw [writeUnits, if_neg positive.ne']
  rfl

theorem decimal?_writeUnits (negative : Bool) (positive : 0 < places) (units : ℕ) :
    ∃ decimal : Decimal, Numeral.decimal? negative (writeUnits places units) = some decimal ∧
      decimal.toRat = signed negative (units / 10 ^ places) := by
  have all := allDigits_padded places units
  have long := lt_length_padded places units
  have value := valueOfDigits_padded places units
  rw [writeUnits_eq positive]
  generalize padded places units = digits at *
  have whole : AllDigits (digits.take (digits.length - places)) :=
    fun character member => all character (List.mem_of_mem_take member)
  have fraction : AllDigits (digits.drop (digits.length - places)) :=
    fun character member => all character (List.mem_of_mem_drop member)
  have first := spanDigits_append whole
    (endsDigits_cons (digits.drop (digits.length - places)) (show isDigit '.' = false by decide))
  have second := spanDigits_append fraction endsDigits_nil
  rw [List.append_nil] at second
  have notEmpty : (digits.take (digits.length - places)).isEmpty = false := by
    rw [List.isEmpty_eq_false_iff, ne_eq, ← List.length_eq_zero_iff, List.length_take]
    omega
  refine ⟨ofParts negative (digits.take (digits.length - places))
    (digits.drop (digits.length - places)) 0, ?_, ?_⟩
  · simp only [Numeral.decimal?, first, second, notEmpty, Bool.false_and, Bool.false_eq_true,
      if_false, Numeral.exponent?, Option.map_some]
  · have places_eq : digits.length - (digits.length - places) = places := by omega
    rw [ofParts, toRat]
    dsimp only
    rw [List.take_append_drop, value, List.length_drop, places_eq, zero_sub, zpow_neg, zpow_natCast,
      div_eq_mul_inv]

theorem sign_writeUnits (positive : 0 < places) (units : ℕ) :
    Numeral.sign (writeUnits places units) = (false, writeUnits places units) := by
  have front : ∃ digit more, writeUnits places units = digit :: more ∧ isDigit digit = true := by
    have all := allDigits_padded places units
    have long := lt_length_padded places units
    rw [writeUnits_eq positive]
    generalize padded places units = digits at *
    cases digits with
    | nil => cases long
    | cons digit more =>
        rw [List.length_cons] at long
        rw [List.length_cons, Nat.succ_sub (by omega), List.take_succ_cons]
        exact ⟨digit, _, rfl, all digit List.mem_cons_self⟩
  rcases front with ⟨digit, more, equal, isFirst⟩
  rw [equal]
  unfold Numeral.sign
  split
  · next front =>
      rw [(List.cons.inj front).1] at isFirst
      exact absurd isFirst (by decide)
  · next front =>
      rw [(List.cons.inj front).1] at isFirst
      exact absurd isFirst (by decide)
  · rfl

/-- The text of a finite number spells it in whole units of the last place. -/
theorem spells_fixed {value : Float} (positive : 0 < places) (finite : value.isFinite = true) :
    Numeral.Spells (fixed places value)
      (signed (isNegative value) (inUnits places (magnitudeBits value) / 10 ^ places)) := by
  have below := finite
  rw [isFinite_eq, decide_eq_true_eq] at below
  rcases decimal?_writeUnits (isNegative value) positive (inUnits places (magnitudeBits value)) with
    ⟨decimal, read, equal⟩
  refine ⟨decimal, ?_, equal⟩
  rw [fixed, isNaN_of_isFinite finite, if_neg Bool.false_ne_true]
  dsimp only
  rw [if_neg below.ne, String.toList_ofList]
  cases sign : isNegative value with
  | true =>
      rw [sign] at read
      exact read
  | false =>
      rw [sign] at read
      rw [if_neg Bool.false_ne_true, sign_writeUnits positive]
      exact read

/-! ## Characters -/

def isFigureCharacter (character : Char) : Bool :=
  isDigit character || ['.', '-', 'N', 'a', 'i', 'n', 'f'].contains character

theorem all_of_allDigits {digits : List Char} (all : AllDigits digits) :
    digits.all isFigureCharacter = true := by
  rw [List.all_eq_true]
  intro character member
  rw [isFigureCharacter, all character member, Bool.true_or]

@[simp]
theorem all_writeUnits (places units : ℕ) :
    (writeUnits places units).all isFigureCharacter = true := by
  have parts : writeUnits places units =
      (padded places units).take ((padded places units).length - places) ++
        if places = 0 then []
        else '.' :: (padded places units).drop ((padded places units).length - places) := rfl
  have digits := all_of_allDigits (allDigits_padded places units)
  rw [← List.take_append_drop ((padded places units).length - places) (padded places units),
    List.all_append, Bool.and_eq_true] at digits
  rw [parts, List.all_append, digits.1, Bool.true_and]
  split
  · rfl
  · rw [List.all_cons, digits.2]
    rfl

@[simp]
theorem all_fixed (places : ℕ) (value : Float) :
    (fixed places value).toList.all isFigureCharacter = true := by
  unfold fixed
  split
  · decide
  · dsimp only
    rw [String.toList_ofList]
    have body : (if magnitudeBits value = infinityBits then ['i', 'n', 'f']
        else writeUnits places (inUnits places (magnitudeBits value))).all isFigureCharacter =
          true := by
      split
      · decide
      · exact all_writeUnits _ _
    split
    · rw [List.all_cons, body]
      rfl
    · exact body

end Decimal

end SignalReplay
