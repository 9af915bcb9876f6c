import Mathlib
import SignalReplay.Decimal.Basic

/-!
Digits that are written and read back. The digits of a whole number spell that number, zeros in
front of digits count for nothing and zeros after them multiply by ten.
-/

namespace SignalReplay.Decimal

theorem isDigit_eq (character : Char) : isDigit character = character.isDigit := rfl

/-! ## Values -/

theorem valueOfDigits_eq (digits : List Char) :
    valueOfDigits digits = Nat.ofDigitChars 10 digits 0 := rfl

theorem valueOfDigits_append (left right : List Char) :
    valueOfDigits (left ++ right) =
      valueOfDigits left * 10 ^ right.length + valueOfDigits right := by
  rw [valueOfDigits_eq, Nat.ofDigitChars_append, Nat.ofDigitChars_eq_ofDigitChars_zero,
    Nat.mul_comm, valueOfDigits_eq, valueOfDigits_eq]

@[simp]
theorem valueOfDigits_zeros (count : Nat) : valueOfDigits (List.replicate count '0') = 0 := by
  rw [valueOfDigits_eq, Nat.ofDigitChars_replicate_zero, Nat.mul_zero]

@[simp]
theorem valueOfDigits_zeros_append (count : Nat) (digits : List Char) :
    valueOfDigits (List.replicate count '0' ++ digits) = valueOfDigits digits := by
  rw [valueOfDigits_append, valueOfDigits_zeros, Nat.zero_mul, Nat.zero_add]

@[simp]
theorem valueOfDigits_append_zeros (digits : List Char) (count : Nat) :
    valueOfDigits (digits ++ List.replicate count '0') = valueOfDigits digits * 10 ^ count := by
  rw [valueOfDigits_append, valueOfDigits_zeros, List.length_replicate, Nat.add_zero]

@[simp]
theorem valueOfDigits_toDigits (number : Nat) : valueOfDigits (Nat.toDigits 10 number) = number :=
  Nat.ofDigitChars_ten_toDigits

/-! ## Written digits -/

def AllDigits (characters : List Char) : Prop :=
  ∀ character ∈ characters, isDigit character = true

theorem AllDigits.append {left right : List Char} (first : AllDigits left)
    (second : AllDigits right) : AllDigits (left ++ right) := by
  intro character member
  rcases List.mem_append.mp member with inLeft | inRight
  · exact first character inLeft
  · exact second character inRight

theorem allDigits_zeros (count : Nat) : AllDigits (List.replicate count '0') := by
  intro character member
  rw [List.eq_of_mem_replicate member]
  decide

theorem allDigits_toDigits (number : Nat) : AllDigits (Nat.toDigits 10 number) := by
  intro character member
  rw [isDigit_eq]
  exact Nat.isDigit_of_mem_toDigits (by decide) (by decide) member

theorem head?_toDigits {number : Nat} (positive : 0 < number) :
    (Nat.toDigits 10 number).head? ≠ some '0' := by
  induction number using Nat.strongRecOn with
  | ind number induction =>
      by_cases short : number < 10
      · rw [Nat.toDigits_of_lt_base short, List.head?_cons]
        intro equal
        have zero := Nat.digitChar_eq_zero.mp (Option.some.inj equal)
        omega
      · rw [Nat.toDigits_of_base_le (by decide) (by omega),
          List.head?_append]
        have front := induction (number / 10) (by omega) (by omega)
        rcases List.exists_cons_of_ne_nil (@Nat.toDigits_ne_nil (number / 10) 10) with
          ⟨first, more, equal⟩
        rw [equal] at front ⊢
        exact front

/-! ## Digits at the front -/

def EndsDigits (rest : List Char) : Prop :=
  ∀ character, rest.head? = some character → isDigit character = false

theorem endsDigits_nil : EndsDigits [] := by
  intro character first
  cases first

theorem endsDigits_cons {character : Char} (rest : List Char)
    (other : isDigit character = false) : EndsDigits (character :: rest) := by
  intro first equal
  rw [← Option.some.inj equal]
  exact other

theorem takeWhile_digits {digits rest : List Char} (all : AllDigits digits)
    (ends : EndsDigits rest) : (digits ++ rest).takeWhile isDigit = digits := by
  rw [List.takeWhile_append_of_pos all]
  cases rest with
  | nil => rw [List.takeWhile_nil, List.append_nil]
  | cons character rest =>
      rw [List.takeWhile_cons_of_neg (by simpa using ends character rfl), List.append_nil]

theorem dropWhile_digits {digits rest : List Char} (all : AllDigits digits)
    (ends : EndsDigits rest) : (digits ++ rest).dropWhile isDigit = rest := by
  rw [List.dropWhile_append_of_pos all]
  cases rest with
  | nil => rw [List.dropWhile_nil]
  | cons character rest =>
      rw [List.dropWhile_cons_of_neg (by simpa using ends character rfl)]

theorem spanDigits_append {digits rest : List Char} (all : AllDigits digits)
    (ends : EndsDigits rest) : spanDigits (digits ++ rest) = (digits, rest) := by
  rw [spanDigits, takeWhile_digits all ends, dropWhile_digits all ends]

end SignalReplay.Decimal
