import SignalReplay.Json.Value
import SignalReplay.Proofs.Decimal.Shortest
import SignalReplay.Proofs.Text.Lines

/-!
Written values hold no control character. Controls in strings are escaped and nothing else in the
compact form spells one, so a written value never takes more than one line.
-/

namespace SignalReplay.Json

open Decimal

/-- No character is a control below the space. -/
def Visible (characters : List Char) : Prop :=
  ∀ character ∈ characters, 0x20 ≤ character.toNat

instance (characters : List Char) : Decidable (Visible characters) :=
  List.decidableBAll _ characters

theorem Visible.append {left right : List Char} (first : Visible left) (second : Visible right) :
    Visible (left ++ right) := by
  intro character member
  rcases List.mem_append.mp member with inLeft | inRight
  · exact first character inLeft
  · exact second character inRight

theorem Visible.cons {first : Char} {rest : List Char} (visible : 0x20 ≤ first.toNat)
    (later : Visible rest) : Visible (first :: rest) := by
  intro character member
  rcases List.mem_cons.mp member with equal | inRest
  · rw [equal]
    exact visible
  · exact later character inRest

theorem visible_flatMap {parts : List α} {text : α → List Char}
    (visible : ∀ part ∈ parts, Visible (text part)) : Visible (parts.flatMap text) := by
  intro character member
  rcases List.mem_flatMap.mp member with ⟨part, inParts, inText⟩
  exact visible part inParts character inText

theorem visible_of_allDigits {digits : List Char} (all : AllDigits digits) : Visible digits := by
  intro character member
  have digit := all character member
  rw [isDigit, Bool.and_eq_true, decide_eq_true_eq, decide_eq_true_eq] at digit
  have least : 48 ≤ character.toNat := digit.1
  omega

/-! ## Strings -/

theorem visible_digitChar {digit : Nat} (hexadecimal : digit < 16) :
    0x20 ≤ (Nat.digitChar digit).toNat := by
  have table : ∀ digit : Fin 16, 0x20 ≤ (Nat.digitChar digit.val).toNat := by decide
  exact table ⟨digit, hexadecimal⟩

theorem visible_escapeCharacter (character : Char) : Visible (escapeCharacter character) := by
  rw [escapeCharacter.eq_def]
  split
  · decide
  · decide
  · decide
  · decide
  · decide
  · dsimp only
    split
    · decide
    split
    · decide
    split
    · next control =>
      have digits : Visible [Nat.digitChar (character.toNat / 16),
          Nat.digitChar (character.toNat % 16)] := by
        apply Visible.cons (visible_digitChar (by omega))
        apply Visible.cons (visible_digitChar (by omega))
        exact List.forall_mem_nil _
      have opening : Visible ['\\', 'u', '0', '0'] := by decide
      exact opening.append digits
    · next visible =>
      apply Visible.cons (by omega)
      exact List.forall_mem_nil _

theorem visible_writeString (text : String) : Visible (writeString text).toList := by
  have quote : Visible ['"'] := by decide
  rw [writeString, String.toList_ofList]
  apply Visible.append _ quote
  apply quote.append
  exact visible_flatMap fun character _ => visible_escapeCharacter character

/-! ## Numbers -/

theorem visible_positional {wholeTail digits : List Char} (before : Int)
    (tail : Visible wholeTail) (all : AllDigits digits) :
    Visible (positional wholeTail digits before) := by
  have point : Visible ['.'] := by decide
  have zeroPoint : Visible ['0', '.'] := by decide
  have zeros (count : Nat) := visible_of_allDigits (allDigits_zeros count)
  have spelled := visible_of_allDigits all
  rw [positional]
  split
  · exact (zeroPoint.append (zeros _)).append spelled
  split
  · exact (spelled.append (zeros _)).append tail
  · apply Visible.append
    · apply Visible.append _ point
      exact fun character member => spelled character (List.mem_of_mem_take member)
    · exact fun character member => spelled character (List.mem_of_mem_drop member)

theorem visible_scientific (exponentPlus : Bool) {digits : List Char} (power : Int)
    (all : AllDigits digits) : Visible (scientific exponentPlus digits power) := by
  have letter : Visible ['e'] := by decide
  have spelled := visible_of_allDigits all
  have fraction : Visible (digits.drop 1) :=
    fun character member => spelled character (List.mem_of_mem_drop member)
  rw [scientific]
  apply Visible.append _ (visible_of_allDigits (allDigits_toDigits _))
  apply Visible.append
  · apply Visible.append _ letter
    apply Visible.append
    · exact fun character member => spelled character (List.mem_of_mem_take member)
    · split
      · decide
      · exact Visible.cons (by decide) fraction
  · split
    · decide
    split
    · decide
    · decide

theorem visible_magnitude {bits : Nat} (finite : bits < Binary64.infinityBits) :
    Visible (numberLayout.magnitude bits) := by
  by_cases zero : bits = 0
  · rw [zero]
    decide
  · rcases magnitude_spells numberLayout (Nat.pos_of_ne_zero zero) finite with
      ⟨digits, power, spells, _, text⟩
    rw [text]
    split
    · exact visible_positional (power + 1) (by decide) spells.all_digits
    · exact visible_scientific _ power spells.all_digits

theorem visible_number (number : Number) : Visible number.write.toList := by
  cases number with
  | whole value =>
      have digits (magnitude : Nat) := visible_of_allDigits (allDigits_toDigits magnitude)
      cases value with
      | ofNat magnitude =>
          have spelled := digits magnitude
          rw [← Nat.toList_repr] at spelled
          exact spelled
      | negSucc magnitude =>
          have spelled := digits (magnitude + 1)
          have sign : Visible "-".toList := by decide
          rw [← Nat.toList_repr] at spelled
          have whole := sign.append spelled
          rw [← String.toList_append] at whole
          exact whole
  | real value =>
      rw [Number.write]
      split
      · next finite =>
        rw [Layout.write]
        split
        · decide
        · rw [Binary64.isFinite_eq, decide_eq_true_eq] at finite
          dsimp only
          rw [if_neg (Nat.ne_of_lt finite), String.toList_ofList]
          have body := visible_magnitude finite
          split
          · exact Visible.cons (by decide) body
          · exact body
      · decide

/-! ## Values -/

theorem visible_commas {parts : List String} (visible : ∀ part ∈ parts, Visible part.toList) :
    Visible (",".intercalate parts).toList := by
  have comma : Visible ",".toList := by decide
  cases parts with
  | nil => decide
  | cons first rest =>
      rw [Text.toList_intercalate_cons]
      apply (visible first (List.mem_cons_self ..)).append
      exact visible_flatMap fun part member =>
        comma.append (visible part (List.mem_cons_of_mem _ member))

namespace Value

mutual

theorem visible_compact : ∀ value : Value, Visible value.compact.toList
  | .null => by
      rw [compact]
      decide
  | .boolean true => by
      rw [compact]
      decide
  | .boolean false => by
      rw [compact]
      decide
  | .number value => by
      rw [compact]
      exact visible_number value
  | .string text => by
      rw [compact]
      exact visible_writeString text
  | .array elements => by
      have opening : Visible "[".toList := by decide
      have closing : Visible "]".toList := by decide
      rw [compact, String.toList_append, String.toList_append]
      exact (opening.append (visible_commas (visible_compactElements elements))).append closing
  | .object members => by
      have opening : Visible "\x7b".toList := by decide
      have closing : Visible "\x7d".toList := by decide
      rw [compact, String.toList_append, String.toList_append]
      exact (opening.append (visible_commas (visible_compactMembers members))).append closing

theorem visible_compactElements : ∀ elements : List Value,
    ∀ part ∈ compactElements elements, Visible part.toList
  | [], part, member => by
      rw [compactElements] at member
      cases member
  | element :: elements, part, member => by
      rw [compactElements] at member
      rcases List.mem_cons.mp member with equal | later
      · rw [equal]
        exact visible_compact element
      · exact visible_compactElements elements part later

theorem visible_compactMembers : ∀ members : List (String × Value),
    ∀ part ∈ compactMembers members, Visible part.toList
  | [], part, member => by
      rw [compactMembers] at member
      cases member
  | (name, value) :: members, part, member => by
      rw [compactMembers] at member
      rcases List.mem_cons.mp member with equal | later
      · have colon : Visible ":".toList := by decide
        rw [equal, String.toList_append, String.toList_append]
        exact ((visible_writeString name).append colon).append (visible_compact value)
      · exact visible_compactMembers members part later

end

end Value

end SignalReplay.Json
