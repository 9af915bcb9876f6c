import Mathlib.Data.String.Basic
import SignalReplay.Proofs.Text.Utf8

/-!
The order of texts. Going by characters or by the bytes that spell them comes to the same, since of
two characters the lesser one has the lesser spelling.
-/

namespace SignalReplay.Utf8

/-- The spelling of a lesser character comes first, whatever follows. A longer spelling begins with
a greater byte, and two of one length differ first where the codes do. -/
theorem utf8EncodeChar_append_lt {left right : Char} (less : left < right)
    (lefts rights : List UInt8) :
    String.utf8EncodeChar left ++ lefts < String.utf8EncodeChar right ++ rights := by
  have less : left.val.toNat < right.val.toNat := less
  have valid : right.val.toNat < 0xD800 ∨
      0xDFFF < right.val.toNat ∧ right.val.toNat < 0x110000 := right.valid
  have bytes (number : Nat) : (UInt8.ofNat number).toNat = number % 256 := UInt8.toNat_ofNat'
  unfold String.utf8EncodeChar
  dsimp only
  generalize left.val.toNat = first at *
  generalize right.val.toNat = second at *
  -- Each digit of a code is left over by the next one.
  have third (code : Nat) : code / 4096 = code / 64 / 64 := by omega
  have fourth (code : Nat) : code / 262144 = code / 64 / 64 / 64 := by omega
  repeat' split
  -- The lesser character never has the longer spelling.
  all_goals try omega
  all_goals
    simp only [List.cons_append, List.nil_append, List.cons_lt_cons_iff, UInt8.lt_iff_toNat_lt,
      ← UInt8.toNat_inj, bytes, third, fourth]
    generalize (lefts < rights) = later
    omega

theorem utf8EncodeChar_ne_nil (character : Char) : String.utf8EncodeChar character ≠ [] := by
  rw [← List.length_pos_iff, String.length_utf8EncodeChar]
  exact Char.utf8Size_pos character

theorem flatMap_utf8EncodeChar_lt {left right : List Char} (less : left < right) :
    left.flatMap String.utf8EncodeChar < right.flatMap String.utf8EncodeChar := by
  induction left generalizing right with
  | nil =>
      cases right with
      | nil => exact absurd less (List.lt_irrefl _)
      | cons second rights =>
          rcases List.exists_cons_of_ne_nil (utf8EncodeChar_ne_nil second) with ⟨byte, bytes, equal⟩
          rw [List.flatMap_cons, equal]
          exact List.nil_lt_cons _ _
  | cons first lefts induction =>
      cases right with
      | nil => exact absurd less (List.not_lt_nil _)
      | cons second rights =>
          rw [List.flatMap_cons, List.flatMap_cons]
          rcases List.cons_lt_cons_iff.mp less with before | ⟨equal, later⟩
          · exact utf8EncodeChar_append_lt before _ _
          · rw [equal]
            exact List.append_left_lt (induction later)

theorem encode_lt_of_lt {left right : String} (less : left < right) :
    encode left < encode right := by
  rw [encode_eq_flatMap, encode_eq_flatMap]
  exact flatMap_utf8EncodeChar_lt (String.lt_iff.mp less)

theorem encode_lt_iff {left right : String} : encode left < encode right ↔ left < right := by
  refine ⟨fun less => ?_, encode_lt_of_lt⟩
  rcases lt_trichotomy left right with before | equal | after
  · exact before
  · rw [equal] at less
    exact absurd less (List.lt_irrefl _)
  · exact absurd less (List.lt_asymm (encode_lt_of_lt after))

end SignalReplay.Utf8
