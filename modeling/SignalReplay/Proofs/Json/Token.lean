import SignalReplay.Proofs.Json.Text
import SignalReplay.Text.Blank

/-!
Tokens of a text that goes on. A token that was found keeps its place when more text follows, except
that a number at the end might have gone on. A text of blanks holds no token.
-/

namespace SignalReplay.Json

open Decimal

namespace Token

variable {text after rest digits : List Char}

/-! ## Strings and words -/

theorem scanString_append {pieces : List Piece} (found : scanString text = some (pieces, after))
    (rest : List Char) : scanString (text ++ rest) = some (pieces, after ++ rest) := by
  fun_induction scanString text generalizing pieces with
  | case1 => cases found
  | case2 more =>
      cases found
      rfl
  | case3 first second third fourth more induction =>
      simp only [Option.bind_eq_bind, Option.bind_eq_some_iff] at found
      rcases found with ⟨piece, unit, ⟨later, _⟩, scanned, equal⟩
      cases equal
      exact (scanString_unit (more ++ rest) unit).trans
        (congrArg (prepend piece) (induction scanned))
  | case4 letter more _ induction =>
      simp only [Option.bind_eq_bind, Option.bind_eq_some_iff] at found
      rcases found with ⟨piece, known, ⟨later, _⟩, scanned, equal⟩
      cases equal
      exact (scanString_letter (more ++ rest) known).trans
        (congrArg (prepend piece) (induction scanned))
  | case5 => cases found
  | case6 character more noQuote _ _ plain induction =>
      simp only [Option.bind_eq_bind, Option.bind_eq_some_iff] at found
      rcases found with ⟨⟨later, _⟩, scanned, equal⟩
      cases equal
      simp only [Bool.or_eq_true, decide_eq_true_eq, beq_iff_eq, not_or, Nat.not_lt] at plain
      exact (scanString_plain (more ++ rest) noQuote plain.2 plain.1).trans
        (congrArg (prepend (.character character)) (induction scanned))

theorem scanWord_append {token : Token} (found : scanWord text = some (token, after))
    (rest : List Char) : scanWord (text ++ rest) = some (token, after ++ rest) := by
  rw [scanWord.eq_def] at found
  split at found
  · cases found
    rfl
  · cases found
    rfl
  · cases found
    rfl
  · cases found

/-! ## Numbers -/

theorem spanDigits_append_of_stopped (text rest : List Char)
    (stopped : (spanDigits text).2 ≠ []) :
    spanDigits (text ++ rest) = ((spanDigits text).1, (spanDigits text).2 ++ rest) := by
  induction text with
  | nil => exact absurd rfl stopped
  | cons first more induction =>
      by_cases digit : isDigit first = true
      · simp only [spanDigits, List.cons_append, List.takeWhile_cons_of_pos digit,
          List.dropWhile_cons_of_pos digit] at stopped induction ⊢
        rw [Prod.mk.injEq] at *
        exact ⟨congrArg (first :: ·) (induction stopped).1, (induction stopped).2⟩
      · simp only [spanDigits, List.cons_append, List.takeWhile_cons_of_neg digit,
          List.dropWhile_cons_of_neg digit]

theorem scanWhole_append_of_stopped (found : scanWhole text = some (digits, after))
    (stopped : after ≠ []) (rest : List Char) :
    scanWhole (text ++ rest) = some (digits, after ++ rest) := by
  rw [scanWhole.eq_def] at found
  split at found
  · cases found
    rfl
  · next notZero =>
      dsimp only at found
      split at found
      · cases found
      · next taken =>
          cases found
          rw [scanWhole]
          · rw [spanDigits_append_of_stopped text rest stopped]
            exact if_neg taken
          · intro more equal
            cases text with
            | nil => exact stopped rfl
            | cons first later => exact notZero later (by rw [(List.cons.inj equal).1])

theorem scanFraction_append_of_stopped (found : scanFraction text = some (digits, after))
    (stopped : after ≠ []) (rest : List Char) :
    scanFraction (text ++ rest) = some (digits, after ++ rest) := by
  rw [scanFraction.eq_def] at found
  split at found
  · next more =>
      dsimp only at found
      split at found
      · cases found
      · next taken =>
          cases found
          rw [List.cons_append, scanFraction, spanDigits_append_of_stopped more rest stopped]
          exact if_neg taken
  · next noPoint =>
      cases found
      apply scanFraction_none
      cases text with
      | nil => exact absurd rfl stopped
      | cons first later =>
          intro point
          exact noPoint later (by rw [Option.some.inj point])

theorem scanSign_append (notEmpty : text ≠ []) (rest : List Char) :
    scanSign (text ++ rest) = ((scanSign text).1, (scanSign text).2 ++ rest) := by
  rcases List.exists_cons_of_ne_nil notEmpty with ⟨first, more, rfl⟩
  rw [List.cons_append, scanSign.eq_def, scanSign.eq_def (first :: more)]
  split
  · next equal =>
      cases equal
      rfl
  · next equal =>
      cases equal
      rfl
  · next noMinus noPlus =>
      split
      · next equal => exact absurd (by rw [(List.cons.inj equal).1]) (noMinus (more ++ rest))
      · next equal => exact absurd (by rw [(List.cons.inj equal).1]) (noPlus (more ++ rest))
      · rfl

theorem scanExponent_append_of_stopped {exponent : Option Int}
    (found : scanExponent text = some (exponent, after)) (stopped : after ≠ [])
    (rest : List Char) : scanExponent (text ++ rest) = some (exponent, after ++ rest) := by
  rw [scanExponent.eq_def] at found
  split at found
  · cases found
    exact absurd rfl stopped
  · next mark more =>
      rw [List.cons_append, scanExponent.eq_def]
      dsimp only at found ⊢
      split at found
      · next marked =>
          rw [if_pos marked]
          split at found
          · cases found
          · next taken =>
              cases found
              have notEmpty : more ≠ [] := by
                rintro rfl
                exact taken rfl
              rw [scanSign_append notEmpty, spanDigits_append_of_stopped _ rest stopped]
              exact if_neg taken
      · next unmarked =>
          cases found
          rw [if_neg unmarked]
          rfl

theorem scanMagnitude_append_of_stopped {negative : Bool} {numeral : Numeral}
    (found : scanMagnitude negative text = some (numeral, after)) (stopped : after ≠ [])
    (rest : List Char) : scanMagnitude negative (text ++ rest) = some (numeral, after ++ rest) := by
  simp only [scanMagnitude, Option.bind_eq_bind, Option.bind_eq_some_iff] at found
  rcases found with ⟨⟨whole, afterWhole⟩, wholeFound, ⟨fraction, afterFraction⟩, fractionFound,
    ⟨exponent, last⟩, exponentFound, equal⟩
  cases equal
  -- Each part leaves something, since the parts behind it do.
  have fractionStopped : afterFraction ≠ [] := by
    rintro rfl
    cases exponentFound
    exact stopped rfl
  have wholeStopped : afterWhole ≠ [] := by
    rintro rfl
    cases fractionFound
    exact fractionStopped rfl
  exact scanMagnitude_parts negative
    (scanWhole_append_of_stopped wholeFound wholeStopped rest)
    (scanFraction_append_of_stopped fractionFound fractionStopped rest)
    (scanExponent_append_of_stopped exponentFound stopped rest)

theorem scanNumber_append_of_stopped {numeral : Numeral}
    (found : scanNumber text = some (numeral, after)) (stopped : after ≠ [])
    (rest : List Char) : scanNumber (text ++ rest) = some (numeral, after ++ rest) := by
  rw [scanNumber.eq_def] at found
  split at found
  · exact scanMagnitude_append_of_stopped found stopped rest
  · rcases digit_of_scanMagnitude found with ⟨digit, more, rfl, isFirst⟩
    exact (scanNumber_digit (more ++ rest) isFirst).trans
      (scanMagnitude_append_of_stopped found stopped rest)

/-! ## Tokens -/

/-- A token is found again in a text that goes on, unless it is a number at the end. -/
theorem scanToken_append {token : Token} (found : scanToken text = some (token, after))
    (stopped : ∀ numeral, token = .number numeral → after ≠ []) (rest : List Char) :
    scanToken (text ++ rest) = some (token, after ++ rest) := by
  cases text with
  | nil => cases found
  | cons first more =>
      rw [scanToken] at found
      rw [List.cons_append, scanToken]
      cases mark : ofMark? first with
      | some known =>
          rw [mark] at found
          cases found
          rfl
      | none =>
          rw [mark] at found
          dsimp only at found ⊢
          split at found
          · next quote =>
              rw [if_pos quote]
              rcases Option.map_eq_some_iff.mp found with ⟨⟨pieces, later⟩, scanned, equal⟩
              cases equal
              rw [scanString_append scanned rest]
              rfl
          · next noQuote =>
              rw [if_neg noQuote]
              split at found
              · next number =>
                  rw [if_pos number]
                  rcases Option.map_eq_some_iff.mp found with ⟨⟨numeral, later⟩, scanned, equal⟩
                  cases equal
                  have longer := scanNumber_append_of_stopped scanned (stopped numeral rfl) rest
                  rw [List.cons_append] at longer
                  rw [longer]
                  rfl
              · next noNumber =>
                  rw [if_neg noNumber]
                  exact scanWord_append found rest

theorem scans_append {tokens : List Token} (found : ofText text = some tokens)
    (noNumber : ∀ numeral, tokens.getLast? ≠ some (.number numeral)) (rest : List Char) :
    Scans (text ++ rest) tokens rest := by
  fun_induction ofText text generalizing tokens with
  | case1 =>
      cases found
      exact scans_nil rest
  | case2 first more space induction =>
      have skipped : ofText (first :: (more ++ rest)) = ofText (more ++ rest) := by
        rw [ofText, if_pos space]
      rw [Scans, List.cons_append, skipped]
      exact induction found noNumber
  | case3 => cases found
  | case4 first more visible token after scanned induction =>
      rcases Option.map_eq_some_iff.mp found with ⟨later, laterFound, rfl⟩
      -- A number with nothing behind it would be the last token.
      have stopped : ∀ numeral, token = .number numeral → after ≠ [] := by
        rintro numeral rfl rfl
        rw [ofText] at laterFound
        cases laterFound
        exact noNumber numeral rfl
      have laterNoNumber : ∀ numeral, later.getLast? ≠ some (.number numeral) := by
        intro numeral last
        refine noNumber numeral ?_
        rw [List.getLast?_cons, last]
        rfl
      exact (scans_token (scanToken_append scanned stopped rest)).trans
        (induction laterFound laterNoNumber)

/-! ## Blank texts -/

theorem scanToken_of_isBlank {first : Char} (blank : Text.isBlank first = true)
    (more : List Char) : scanToken (first :: more) = none := by
  have noMark : ofMark? first = none := by
    rw [ofMark?.eq_def]
    split
    all_goals first
      | rfl
      | exact absurd blank (by decide)
  have other {letter : Char} (visible : Text.isBlank letter = false) : first ≠ letter := by
    rintro rfl
    rw [blank] at visible
    cases visible
  have noDigit : isDigit first = false := by
    simp only [Text.isBlank, Bool.or_eq_true, Bool.and_eq_true, decide_eq_true_eq,
      beq_iff_eq] at blank
    rw [isDigit, Bool.and_eq_false_iff, decide_eq_false_iff_not, decide_eq_false_iff_not,
      Char.le_def, Char.le_def, UInt32.le_iff_toNat_le, UInt32.le_iff_toNat_le]
    change ¬ 48 ≤ first.toNat ∨ ¬ first.toNat ≤ 57
    omega
  have noWord : scanWord (first :: more) = none := by
    rw [scanWord.eq_def]
    split
    · next equal => exact absurd (List.cons.inj equal).1 (other (by decide))
    · next equal => exact absurd (List.cons.inj equal).1 (other (by decide))
    · next equal => exact absurd (List.cons.inj equal).1 (other (by decide))
    · rfl
  rw [scanToken, noMark, beq_eq_false_iff_ne.mpr (other (by decide)),
    beq_eq_false_iff_ne.mpr (other (by decide)), noDigit]
  exact noWord

theorem ofText_of_all_isBlank (blank : text.all Text.isBlank = true) :
    ofText text = some [] ∨ ofText text = none := by
  induction text with
  | nil => exact .inl (by rw [ofText])
  | cons first more induction =>
      rw [List.all_cons, Bool.and_eq_true] at blank
      rw [ofText]
      split
      · exact induction blank.2
      · right
        split
        · rfl
        · next found =>
            rw [scanToken_of_isBlank blank.1] at found
            cases found

end Token

theorem Value.ofText?_of_isBlankText {text : String} (blank : Text.isBlankText text = true) :
    Value.ofText? text = none := by
  rw [Value.ofText?, Node.ofText?]
  rcases Token.ofText_of_all_isBlank blank with nothing | none
  · rw [nothing]
    rfl
  · rw [none]
    rfl

end SignalReplay.Json
