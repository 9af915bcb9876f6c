import SignalReplay.Json.Token

/-!
Strings read back. Each escaped character is scanned as one piece that spells the character again,
so that a written string is one token whose content is the text that was written.
-/

namespace SignalReplay.Json.Token

@[simp]
theorem assemble_character (character : Char) (pieces : List Piece) :
    assemble (.character character :: pieces) = (assemble pieces).map (character :: ·) := by
  rw [assemble]

theorem assemble_unit {code : Nat} (low : code < 0xD800) (pieces : List Piece) :
    assemble (.unit code :: pieces) = (assemble pieces).map (Char.ofNat code :: ·) := by
  have outside (other : Bool) : (decide (code < 0xD800) || other) = true := by
    rw [decide_eq_true low, Bool.true_or]
  cases pieces with
  | nil => rw [assemble.eq_def (.unit code :: _)]; exact if_pos (outside _)
  | cons piece pieces =>
      rw [assemble.eq_def (.unit code :: _)]
      cases piece with
      | character value => exact if_pos (outside _)
      | unit next => exact if_pos (outside _)

theorem unit?_control {code : Nat} (control : code < 0x20) :
    unit? '0' '0' (Nat.digitChar (code / 16)) (Nat.digitChar (code % 16)) = some (.unit code) := by
  have table : ∀ code : Fin 0x20, unit? '0' '0' (Nat.digitChar (code.val / 16))
      (Nat.digitChar (code.val % 16)) = some (.unit code.val) := by decide
  exact table ⟨code, control⟩

/-! ## Scanning -/

def prepend (piece : Piece) (scanned : Option (List Piece × List Char)) :
    Option (List Piece × List Char) :=
  scanned.map fun (pieces, rest) => (piece :: pieces, rest)

theorem scanString_letter {letter : Char} {piece : Piece} (rest : List Char)
    (known : escaped? letter = some piece) :
    scanString ('\\' :: letter :: rest) = prepend piece (scanString rest) := by
  rw [scanString]
  · rw [known]
    cases scanString rest <;> rfl
  · intro first second third fourth more notUnit _
    rw [notUnit] at known
    cases known

theorem scanString_unit {first second third fourth : Char} {piece : Piece} (rest : List Char)
    (known : unit? first second third fourth = some piece) :
    scanString ('\\' :: 'u' :: first :: second :: third :: fourth :: rest) =
      prepend piece (scanString rest) := by
  rw [scanString, known]
  cases scanString rest <;> rfl

theorem scanString_plain {character : Char} (rest : List Char) (noQuote : character ≠ '"')
    (noBackslash : character ≠ '\\') (visible : 0x20 ≤ character.toNat) :
    scanString (character :: rest) = prepend (.character character) (scanString rest) := by
  have accepted : (decide (character.toNat < 0x20) || character == '\\') = false := by
    rw [decide_eq_false (Nat.not_lt.mpr visible), beq_eq_false_iff_ne.mpr noBackslash]
    rfl
  rw [scanString]
  · rw [accepted, if_neg Bool.false_ne_true]
    cases scanString rest <;> rfl
  · exact noQuote
  · intro _ _ _ _ _ backslash _
    exact noBackslash backslash
  · intro _ _ backslash _
    exact noBackslash backslash

theorem scanString_escapeCharacter (character : Char) (rest : List Char) :
    ∃ piece, (∀ pieces, assemble (piece :: pieces) = (assemble pieces).map (character :: ·)) ∧
      scanString (escapeCharacter character ++ rest) = prepend piece (scanString rest) := by
  rw [escapeCharacter.eq_def]
  split
  · exact ⟨_, assemble_character '"', scanString_letter rest rfl⟩
  · exact ⟨_, assemble_character '\\', scanString_letter rest rfl⟩
  · exact ⟨_, assemble_character '\n', scanString_letter rest rfl⟩
  · exact ⟨_, assemble_character '\r', scanString_letter rest rfl⟩
  · exact ⟨_, assemble_character '\t', scanString_letter rest rfl⟩
  · next noQuote noBackslash _ _ _ =>
    have spelled : Char.ofNat character.toNat = character := Char.ofNat_toNat character
    dsimp only
    split
    · next backspace =>
      rw [backspace] at spelled
      rw [← spelled]
      exact ⟨_, assemble_character _, scanString_letter rest rfl⟩
    · split
      · next formFeed =>
        rw [formFeed] at spelled
        rw [← spelled]
        exact ⟨_, assemble_character _, scanString_letter rest rfl⟩
      · split
        · next control =>
          have unit := @assemble_unit character.toNat (by omega)
          rw [spelled] at unit
          exact ⟨_, unit, scanString_unit rest (unit?_control control)⟩
        · next visible =>
          exact ⟨_, assemble_character character,
            scanString_plain rest noQuote noBackslash (by omega)⟩

theorem scanString_flatMap (characters rest : List Char) :
    ∃ pieces, assemble pieces = some characters ∧
      scanString (characters.flatMap escapeCharacter ++ '"' :: rest) = some (pieces, rest) := by
  induction characters with
  | nil => exact ⟨[], rfl, by rw [List.flatMap_nil, List.nil_append, scanString]⟩
  | cons character characters induction =>
      rcases induction with ⟨pieces, spelled, scanned⟩
      rcases scanString_escapeCharacter character
        (characters.flatMap escapeCharacter ++ '"' :: rest) with ⟨piece, spells, step⟩
      refine ⟨piece :: pieces, ?_, ?_⟩
      · rw [spells, spelled]
        rfl
      · rw [List.flatMap_cons, List.append_assoc, step, scanned]
        rfl

@[simp]
theorem scanToken_writeString (text : String) (rest : List Char) :
    scanToken ((writeString text).toList ++ rest) = some (.string (some text), rest) := by
  rcases scanString_flatMap text.toList rest with ⟨pieces, spelled, scanned⟩
  have quoted : (writeString text).toList ++ rest =
      '"' :: (text.toList.flatMap escapeCharacter ++ '"' :: rest) := by
    rw [writeString, String.toList_ofList, List.append_assoc, List.append_assoc]
    rfl
  rw [quoted, scanToken]
  change ((scanString _).map _) = _
  rw [scanned, Option.map_some]
  dsimp only
  rw [spelled, Option.map_some, String.ofList_toList]

end SignalReplay.Json.Token
