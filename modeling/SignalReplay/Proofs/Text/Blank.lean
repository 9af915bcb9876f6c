import Mathlib.Data.List.Basic
import Mathlib.Data.List.Induction
import SignalReplay.Proofs.Text.Utf8
import SignalReplay.Text.Blank

/-!
Blanks around texts. A blank byte is a character by itself, so that bytes are a text exactly if
they are one without the blanks at their ends; and a text is blank exactly if it is so without them.
-/

namespace SignalReplay.Text

def IsText (bytes : List UInt8) : Prop :=
  ∃ text, bytes = Utf8.encode text

variable {byte : UInt8} {bytes : List UInt8}

theorem isText_iff : IsText bytes ↔
    ∃ characters : List Char, bytes = characters.flatMap String.utf8EncodeChar := by
  constructor
  · rintro ⟨text, rfl⟩
    exact ⟨text.toList, Utf8.encode_eq_flatMap text⟩
  · rintro ⟨characters, rfl⟩
    exact ⟨String.ofList characters, by rw [Utf8.encode_eq_flatMap, String.toList_ofList]⟩

theorem low_of_isBlankByte (blank : isBlankByte byte = true) : byte.toNat < 0x80 := by
  simp only [isBlankByte, Bool.or_eq_true, beq_iff_eq] at blank
  rcases blank with (((rfl | rfl) | rfl) | rfl) | rfl
  all_goals decide

theorem exists_utf8EncodeChar (low : byte.toNat < 0x80) :
    ∃ character, String.utf8EncodeChar character = [byte] := by
  have least : byte.toNat ≤ 0x7F := by omega
  have spelled := Utf8.utf8EncodeChar_ofNat (Or.inl (by omega) : byte.toNat.isValidChar)
  rw [if_pos least, UInt8.ofNat_toNat] at spelled
  exact ⟨_, spelled⟩

theorem utf8EncodeChar_of_mem {character : Char} (low : byte.toNat < 0x80)
    (member : byte ∈ String.utf8EncodeChar character) :
    String.utf8EncodeChar character = [byte] := by
  have code : character.val.toNat = byte.toNat := Utf8.eq_of_mem_utf8EncodeChar low member
  have least : byte.toNat ≤ 0x7F := by omega
  rw [String.utf8EncodeChar, code, if_pos least, UInt8.ofNat_toNat]

theorem isText_cons_iff (low : byte.toNat < 0x80) : IsText (byte :: bytes) ↔ IsText bytes := by
  rw [isText_iff, isText_iff]
  constructor
  · rintro ⟨characters, spelled⟩
    cases characters with
    | nil => cases spelled
    | cons character characters =>
        rw [List.flatMap_cons] at spelled
        have member : byte ∈ String.utf8EncodeChar character := by
          have head := congrArg List.head? spelled
          rw [List.head?_cons, List.head?_append_of_ne_nil _ String.utf8EncodeChar_ne_nil] at head
          exact List.mem_of_head? head.symm
        rw [utf8EncodeChar_of_mem low member] at spelled
        exact ⟨characters, (List.cons.inj spelled).2⟩
  · rintro ⟨characters, rfl⟩
    rcases exists_utf8EncodeChar low with ⟨character, alone⟩
    exact ⟨character :: characters, by rw [List.flatMap_cons, alone, List.singleton_append]⟩

theorem isText_concat_iff (low : byte.toNat < 0x80) : IsText (bytes ++ [byte]) ↔ IsText bytes := by
  rw [isText_iff, isText_iff]
  constructor
  · rintro ⟨characters, spelled⟩
    cases characters using List.reverseRecOn with
    | nil => simp at spelled
    | append_singleton characters character _ =>
        rw [List.flatMap_append, List.flatMap_singleton] at spelled
        have member : byte ∈ String.utf8EncodeChar character := by
          have last := congrArg List.getLast? spelled
          rw [List.getLast?_concat, List.getLast?_append_of_ne_nil _
            String.utf8EncodeChar_ne_nil] at last
          exact List.mem_of_getLast? last.symm
        rw [utf8EncodeChar_of_mem low member] at spelled
        exact ⟨characters, List.append_cancel_right spelled⟩
  · rintro ⟨characters, rfl⟩
    rcases exists_utf8EncodeChar low with ⟨character, alone⟩
    exact ⟨characters ++ [character],
      by rw [List.flatMap_append, List.flatMap_singleton, alone]⟩

theorem isText_dropWhile_iff : IsText (bytes.dropWhile isBlankByte) ↔ IsText bytes := by
  induction bytes with
  | nil => exact Iff.rfl
  | cons byte bytes induction =>
      rw [List.dropWhile_cons]
      split
      · next blank => rw [induction, isText_cons_iff (low_of_isBlankByte blank)]
      · exact Iff.rfl

theorem isText_dropWhile_reverse_iff :
    IsText (bytes.reverse.dropWhile isBlankByte).reverse ↔ IsText bytes := by
  induction bytes using List.reverseRecOn with
  | nil => exact Iff.rfl
  | append_singleton bytes byte induction =>
      rw [List.reverse_append, List.reverse_singleton, List.singleton_append, List.dropWhile_cons]
      split
      · next blank => rw [induction, isText_concat_iff (low_of_isBlankByte blank)]
      · rw [List.reverse_cons, List.reverse_reverse]

@[simp]
theorem isText_trimBytes_iff : IsText (trimBytes bytes) ↔ IsText bytes := by
  rw [trimBytes, isText_dropWhile_reverse_iff, isText_dropWhile_iff]

/-! ## Blank texts -/

@[simp]
theorem all_trimStart (characters : List Char) :
    (trimStart characters).all isBlank = characters.all isBlank := by
  induction characters with
  | nil => rfl
  | cons character rest induction =>
      rw [trimStart, List.dropWhile_cons]
      split
      · next blank => rw [← trimStart, induction, List.all_cons, blank, Bool.true_and]
      · rfl

@[simp]
theorem isBlankText_trim (text : String) : isBlankText (trim text) = isBlankText text := by
  rw [isBlankText, trim, String.toList_ofList, List.all_reverse, all_trimStart, List.all_reverse,
    all_trimStart, isBlankText]

end SignalReplay.Text
