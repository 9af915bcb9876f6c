import SignalReplay.Decimal.Numeral
import SignalReplay.Proofs.Json.Number
import SignalReplay.Proofs.Json.String
import SignalReplay.Text.Blank

/-!
Number literals. A literal can stand in a JSON text as a number or inside a string that spells a
number, and two scanners read it. Both find the same decimal; the number is refused if the decimal
rounds to an infinity, and the string is not.
-/

namespace SignalReplay.Json

open Decimal

structure Exponent where
  letter : Char
  sign : List Char
  digits : List Char
  isLetter : letter = 'e' ∨ letter = 'E'
  isSign : sign = [] ∨ sign = ['+'] ∨ sign = ['-']
  allDigits : AllDigits digits
  notEmpty : digits ≠ []

namespace Exponent

def text (exponent : Exponent) : List Char :=
  exponent.letter :: (exponent.sign ++ exponent.digits)

def value (exponent : Exponent) : Int :=
  if exponent.sign = ['-'] then -valueOfDigits exponent.digits else valueOfDigits exponent.digits

end Exponent

/-- A number as the grammar of JSON allows it. -/
structure Literal where
  negative : Bool
  whole : List Char
  /-- The digits behind the point; there is no point without them. -/
  fraction : List Char
  exponent : Option Exponent
  leads : Token.Leads whole
  allDigits : AllDigits fraction

namespace Literal

def fractionText (literal : Literal) : List Char :=
  if literal.fraction.isEmpty then [] else '.' :: literal.fraction

def exponentText (literal : Literal) : List Char :=
  literal.exponent.elim [] Exponent.text

def magnitude (literal : Literal) : List Char :=
  literal.whole ++ (literal.fractionText ++ literal.exponentText)

def text (literal : Literal) : List Char :=
  if literal.negative then '-' :: literal.magnitude else literal.magnitude

def decimal (literal : Literal) : Decimal :=
  ofParts literal.negative literal.whole literal.fraction
    (literal.exponent.elim 0 Exponent.value)

def numeral (literal : Literal) : Numeral :=
  ⟨literal.decimal, literal.fraction.isEmpty && literal.exponent.isNone⟩

end Literal

/-! ## Characters -/

def digitCharacters : List Char :=
  ['0', '1', '2', '3', '4', '5', '6', '7', '8', '9']

def literalCharacters : List Char :=
  digitCharacters ++ ['-', '+', '.', 'e', 'E']

theorem mem_digitCharacters {character : Char} (digit : isDigit character = true) :
    character ∈ digitCharacters := by
  have spelled : Char.ofNat character.toNat = character := Char.ofNat_toNat character
  simp only [isDigit, Bool.and_eq_true, decide_eq_true_eq, Char.le_def,
    UInt32.le_iff_toNat_le] at digit
  have least : 48 ≤ character.toNat := digit.1
  have most : character.toNat ≤ 57 := digit.2
  rw [← spelled]
  interval_cases character.toNat <;> decide

theorem toLower_of_mem_digitCharacters :
    ∀ character ∈ digitCharacters, character.toLower = character :=
  List.forall_iff_forall_mem.mp (by decide)

theorem isBlank_of_mem_literalCharacters :
    ∀ character ∈ literalCharacters, Text.isBlank character = false :=
  List.forall_iff_forall_mem.mp (by decide)

theorem escapeCharacter_of_mem_literalCharacters :
    ∀ character ∈ literalCharacters, escapeCharacter character = [character] :=
  List.forall_iff_forall_mem.mp (by decide)

theorem mem_literalCharacters_of_allDigits {digits : List Char} (all : AllDigits digits) :
    ∀ character ∈ digits, character ∈ literalCharacters :=
  fun character member => List.mem_append_left _ (mem_digitCharacters (all character member))

/-! ## Signs -/

theorem scanSign_digit {digit : Char} (isFirst : isDigit digit = true) (rest : List Char) :
    Token.scanSign (digit :: rest) = (false, digit :: rest) := by
  have other {mark : Char} (noDigit : isDigit mark = false) : digit ≠ mark := by
    rintro rfl
    rw [isFirst] at noDigit
    cases noDigit
  rw [Token.scanSign.eq_def]
  split
  · next equal => exact absurd (List.cons.inj equal).1 (other (by decide))
  · next equal => exact absurd (List.cons.inj equal).1 (other (by decide))
  · rfl

theorem sign_eq_scanSign (text : List Char) : Numeral.sign text = Token.scanSign text := rfl

theorem exists_cons_of_allDigits {digits : List Char} (all : AllDigits digits)
    (notEmpty : digits ≠ []) :
    ∃ digit more, digits = digit :: more ∧ isDigit digit = true := by
  rcases List.exists_cons_of_ne_nil notEmpty with ⟨digit, more, rfl⟩
  exact ⟨digit, more, rfl, all digit List.mem_cons_self⟩

/-! ## Exponents -/

namespace Exponent

variable (exponent : Exponent) {rest : List Char}

@[simp]
theorem scanSign_append (rest : List Char) :
    Token.scanSign (exponent.sign ++ (exponent.digits ++ rest)) =
      (decide (exponent.sign = ['-']), exponent.digits ++ rest) := by
  rcases exponent.isSign with equal | equal | equal <;> rw [equal]
  · rcases exists_cons_of_allDigits exponent.allDigits exponent.notEmpty with
      ⟨digit, more, digits, isFirst⟩
    rw [digits]
    exact scanSign_digit isFirst _
  · rfl
  · rfl

@[simp]
theorem isMark : (exponent.letter == 'e' || exponent.letter == 'E') = true := by
  rw [Bool.or_eq_true, beq_iff_eq, beq_iff_eq]
  exact exponent.isLetter

theorem scanExponent_append (ends : EndsDigits rest) :
    Token.scanExponent (exponent.text ++ rest) = some (some exponent.value, rest) := by
  rw [text, List.cons_append, List.append_assoc, Token.scanExponent, if_pos exponent.isMark,
    scanSign_append, value]
  dsimp only
  rw [spanDigits_append exponent.allDigits ends]
  dsimp only
  rw [Token.isEmpty_eq_false exponent.notEmpty, if_neg Bool.false_ne_true]
  simp only [decide_eq_true_eq]

@[simp]
theorem exponent?_text : Numeral.exponent? exponent.text = some exponent.value := by
  have signed := exponent.scanSign_append []
  rw [List.append_nil] at signed
  have all : exponent.digits.all isDigit = true := List.all_eq_true.mpr exponent.allDigits
  rw [text, Numeral.exponent?, if_pos exponent.isMark, sign_eq_scanSign, signed, value]
  dsimp only
  rw [Token.isEmpty_eq_false exponent.notEmpty, all]
  simp only [Bool.not_true, Bool.or_false, Bool.false_eq_true, if_false, decide_eq_true_eq]

end Exponent

/-! ## Decimals that round to infinities -/

section Rounded

open Binary64

theorem isFinite_toFloat (decimal : Decimal) :
    decimal.toFloat.isFinite =
      decide (nearestBits decimal.digits decimal.exponent < infinityBits) := by
  have defined := (rounds_nearestBits decimal.digits decimal.exponent).le_infinityBits
  rw [isFinite_eq, toFloat, (fields_ofMagnitude decimal.negative defined).2]

theorem isFinite_toFloat_of_lt {decimal : Decimal} (small : decimal.digits < unsignedBound)
    (whole : decimal.exponent = 0) : decimal.toFloat.isFinite = true := by
  rcases @rounds_exact 1 64 (by decide) (by decide) (by decide) with ⟨bits, finite, rounds, _⟩
  have le : (decimal.digits : ℚ) * 10 ^ decimal.exponent ≤ (1 : ℕ) * 2 ^ (64 : ℤ) := by
    rw [whole, zpow_zero, mul_one, Nat.cast_one, one_mul]
    exact_mod_cast small.le
  rw [isFinite_toFloat, decide_eq_true_eq]
  exact ((rounds_nearestBits _ _).mono rounds le).trans_lt finite

theorem toFloat_of_not_isFinite {decimal : Decimal} (infinite : decimal.toFloat.isFinite = false) :
    decimal.toFloat = if decimal.negative then -Numeral.infinity else Numeral.infinity := by
  have defined := (rounds_nearestBits decimal.digits decimal.exponent).le_infinityBits
  rw [isFinite_toFloat, decide_eq_false_iff_not, not_lt] at infinite
  rw [toFloat, defined.antisymm infinite]
  cases decimal.negative <;> with_unfolding_all decide

end Rounded

theorem ofWhole_digits {decimal : Decimal} (whole : decimal.exponent = 0)
    (positive : decimal.negative = false) : ofWhole decimal.digits = decimal := by
  rcases decimal with ⟨negative, digits, exponent⟩
  cases whole
  cases positive
  rw [ofWhole, Int.natAbs_natCast, decide_eq_false (Int.natCast_nonneg digits).not_gt]
  rfl

theorem ofWhole_neg_digits {decimal : Decimal} (whole : decimal.exponent = 0)
    (negative : decimal.negative = true) (nonzero : decimal.digits ≠ 0) :
    ofWhole (-decimal.digits) = decimal := by
  rcases decimal with ⟨_, digits, exponent⟩
  cases whole
  cases negative
  have below : -(digits : Int) < 0 := by
    dsimp only at nonzero
    omega
  rw [ofWhole, Int.natAbs_neg, Int.natAbs_natCast, decide_eq_true below]
  rfl

namespace Literal

variable (literal : Literal) {rest : List Char}

/-! ## Literals as numbers -/

theorem endsDigits_exponentText (ends : EndsDigits rest) :
    EndsDigits (literal.exponentText ++ rest) := by
  rw [exponentText]
  cases literal.exponent with
  | none => exact ends
  | some exponent =>
      refine endsDigits_cons _ ?_
      rcases exponent.isLetter with equal | equal <;> rw [equal] <;> decide

theorem endsDigits_fractionText (ends : EndsDigits rest) :
    EndsDigits (literal.fractionText ++ (literal.exponentText ++ rest)) := by
  rw [fractionText]
  split
  · exact literal.endsDigits_exponentText ends
  · exact endsDigits_cons _ (by decide)

theorem head?_exponentText (noPoint : rest.head? ≠ some '.') :
    (literal.exponentText ++ rest).head? ≠ some '.' := by
  rw [exponentText]
  cases literal.exponent with
  | none => exact noPoint
  | some exponent =>
      intro point
      have letter := exponent.isLetter
      rw [Option.some.inj point] at letter
      exact absurd letter (by decide)

theorem scanFraction_append (ends : EndsNumber rest) :
    Token.scanFraction (literal.fractionText ++ (literal.exponentText ++ rest)) =
      some (literal.fraction, literal.exponentText ++ rest) := by
  have noPoint : rest.head? ≠ some '.' := fun point => (ends '.' point).2.1 rfl
  rw [fractionText]
  split
  · next empty =>
      rw [List.isEmpty_iff.mp empty]
      exact Token.scanFraction_none (literal.head?_exponentText noPoint)
  · next digits =>
      exact Token.scanFraction_point literal.allDigits (fun empty => digits (by rw [empty]; rfl))
        (literal.endsDigits_exponentText ends.endsDigits)

theorem scanExponent_append (ends : EndsNumber rest) :
    Token.scanExponent (literal.exponentText ++ rest) =
      some (literal.exponent.map Exponent.value, rest) := by
  rw [exponentText]
  cases literal.exponent with
  | none => exact Token.scanExponent_none ends
  | some exponent => exact exponent.scanExponent_append ends.endsDigits

theorem scanNumber_text (ends : EndsNumber rest) :
    Token.scanNumber (literal.text ++ rest) = some (literal.numeral, rest) := by
  have scanned := Token.scanMagnitude_parts literal.negative
    (Token.scanWhole_append literal.leads (literal.endsDigits_fractionText ends.endsDigits))
    (literal.scanFraction_append ends) (literal.scanExponent_append ends)
  have named : numeral literal = ⟨ofParts literal.negative literal.whole literal.fraction
      ((literal.exponent.map Exponent.value).getD 0),
      literal.fraction.isEmpty && (literal.exponent.map Exponent.value).isNone⟩ := by
    rw [numeral, decimal]
    cases literal.exponent <;> rfl
  refine scanNumber_signed ?_
  rw [named, magnitude, List.append_assoc, List.append_assoc]
  exact scanned

/-- A literal is read as the number that its decimal rounds to, which must be finite. -/
@[simp]
theorem number?_numeral :
    literal.numeral.number?.map Number.toFloat =
      if literal.decimal.toFloat.isFinite then some literal.decimal.toFloat else none := by
  have whole : literal.numeral.isWhole = true → literal.decimal.exponent = 0 := by
    intro isWhole
    rw [numeral, Bool.and_eq_true, List.isEmpty_iff, Option.isNone_iff_eq_none] at isWhole
    rw [decimal, isWhole.1, isWhole.2]
    rfl
  have named : literal.numeral.decimal = literal.decimal := rfl
  rw [Numeral.number?]
  dsimp only
  rw [named]
  split
  · next fits =>
      simp only [Bool.and_eq_true, Bool.not_eq_true', decide_eq_true_eq] at fits
      rcases fits with ⟨⟨isWhole, positive⟩, small⟩
      rw [if_pos (isFinite_toFloat_of_lt small (whole isWhole)), Option.map_some, Number.toFloat,
        ofWhole_digits (whole isWhole) positive]
  · split
    · next fits =>
        simp only [Bool.and_eq_true, decide_eq_true_eq] at fits
        rcases fits with ⟨⟨⟨isWhole, negative⟩, nonzero⟩, small⟩
        rw [if_pos (isFinite_toFloat_of_lt (small.trans_lt (by decide)) (whole isWhole)),
          Option.map_some, Number.toFloat, ofWhole_neg_digits (whole isWhole) negative nonzero]
    · split <;> rfl

/-! ## Literals inside strings -/

@[simp]
theorem decimal?_magnitude :
    Numeral.decimal? literal.negative literal.magnitude = some literal.decimal := by
  have spanned := spanDigits_append literal.leads.all_digits
    (literal.endsDigits_fractionText endsDigits_nil)
  have later := spanDigits_append literal.allDigits (literal.endsDigits_exponentText endsDigits_nil)
  have power : Numeral.exponent? literal.exponentText =
      some (literal.exponent.elim 0 Exponent.value) := by
    rw [exponentText]
    cases literal.exponent with
    | none => rfl
    | some exponent => exact exponent.exponent?_text
  have noPoint : literal.exponentText.head? ≠ some '.' := by
    have other := literal.head?_exponentText (show ([] : List Char).head? ≠ some '.' by decide)
    rwa [List.append_nil] at other
  rw [List.append_nil] at spanned later
  rw [Numeral.decimal?, magnitude, spanned]
  dsimp only
  rw [Token.isEmpty_eq_false literal.leads.not_empty, Bool.false_and, if_neg Bool.false_ne_true,
    decimal, fractionText]
  by_cases empty : literal.fraction.isEmpty = true
  · rw [if_pos empty, List.nil_append]
    split
    · next point => exact absurd (congrArg List.head? point) noPoint
    · rw [power, List.isEmpty_iff.mp empty]
      rfl
  · rw [if_neg empty]
    change (Numeral.exponent? (spanDigits (literal.fraction ++ literal.exponentText)).2).map
      (ofParts literal.negative literal.whole
        (spanDigits (literal.fraction ++ literal.exponentText)).1) = _
    rw [later, power]
    rfl

theorem exists_magnitude_eq_cons :
    ∃ digit more, literal.magnitude = digit :: more ∧ isDigit digit = true := by
  rcases exists_cons_of_allDigits literal.leads.all_digits literal.leads.not_empty with
    ⟨digit, more, whole, isFirst⟩
  exact ⟨digit, _, by rw [magnitude, whole, List.cons_append], isFirst⟩

@[simp]
theorem sign_text : Numeral.sign literal.text = (literal.negative, literal.magnitude) := by
  rw [sign_eq_scanSign, text]
  cases literal.negative with
  | true => rfl
  | false =>
      rcases literal.exists_magnitude_eq_cons with ⟨digit, more, magnitude, isFirst⟩
      rw [if_neg Bool.false_ne_true, magnitude]
      exact scanSign_digit isFirst more

theorem word_ne {digit : Char} {more : List Char} {text : String} (isFirst : isDigit digit = true)
    (letter : text.toList.head?.all isDigit = false) : Numeral.word (digit :: more) ≠ text := by
  have lower := toLower_of_mem_digitCharacters digit (mem_digitCharacters isFirst)
  rintro rfl
  rw [Numeral.word, String.toList_ofList, List.map_cons, List.head?_cons, lower] at letter
  exact absurd (isFirst.symm.trans letter) (by decide)

theorem text_ne_nil : literal.text ≠ [] := by
  rcases literal.exists_magnitude_eq_cons with ⟨digit, more, magnitude, _⟩
  rw [text, magnitude]
  split <;> exact List.cons_ne_nil _ _

@[simp]
theorem read_text :
    Numeral.read (String.ofList literal.text) = .ok (.ofFloat literal.decimal.toFloat) := by
  rcases literal.exists_magnitude_eq_cons with ⟨digit, more, magnitude, isFirst⟩
  have found := literal.decimal?_magnitude
  have notEmpty : (String.ofList literal.text).isEmpty = false := by
    rw [Bool.eq_false_iff, ne_eq, String.isEmpty_iff]
    exact fun empty => literal.text_ne_nil (String.ofList_eq_empty_iff.mp empty)
  rw [magnitude] at found
  unfold Numeral.read
  rw [notEmpty, if_neg Bool.false_ne_true, String.toList_ofList, sign_text, magnitude]
  dsimp only
  split
  · next word => exact absurd word (word_ne isFirst (by decide))
  · next word => exact absurd word (word_ne isFirst (by decide))
  · next word => exact absurd word (word_ne isFirst (by decide))
  · rw [found]

theorem mem_exponentText : ∀ character ∈ literal.exponentText, character ∈ literalCharacters := by
  rw [exponentText]
  cases literal.exponent with
  | none => exact List.forall_mem_nil _
  | some exponent =>
      have letter : exponent.letter ∈ literalCharacters := by
        rcases exponent.isLetter with equal | equal <;> rw [equal] <;> decide
      have sign : ∀ character ∈ exponent.sign, character ∈ literalCharacters := by
        rcases exponent.isSign with equal | equal | equal <;> rw [equal]
        · exact List.forall_mem_nil _
        · exact List.forall_mem_singleton.mpr (by decide)
        · exact List.forall_mem_singleton.mpr (by decide)
      exact List.forall_mem_cons.mpr ⟨letter, List.forall_mem_append.mpr
        ⟨sign, mem_literalCharacters_of_allDigits exponent.allDigits⟩⟩

theorem mem_text : ∀ character ∈ literal.text, character ∈ literalCharacters := by
  have fraction : ∀ character ∈ literal.fractionText, character ∈ literalCharacters := by
    rw [fractionText]
    split
    · exact List.forall_mem_nil _
    · exact List.forall_mem_cons.mpr
        ⟨by decide, mem_literalCharacters_of_allDigits literal.allDigits⟩
  have magnitude : ∀ character ∈ literal.magnitude, character ∈ literalCharacters :=
    List.forall_mem_append.mpr ⟨mem_literalCharacters_of_allDigits literal.leads.all_digits,
      List.forall_mem_append.mpr ⟨fraction, literal.mem_exponentText⟩⟩
  rw [text]
  split
  · exact List.forall_mem_cons.mpr ⟨by decide, magnitude⟩
  · exact magnitude

@[simp]
theorem trim_text : Text.trim (String.ofList literal.text) = String.ofList literal.text := by
  have visible (characters : List Char)
      (all : ∀ character ∈ characters, character ∈ literalCharacters) :
      Text.trimStart characters = characters := by
    rw [Text.trimStart, List.dropWhile_eq_self_iff]
    intro notEmpty
    rw [isBlank_of_mem_literalCharacters _ (all _ (List.getElem_mem _))]
    exact Bool.false_ne_true
  rw [Text.trim, String.toList_ofList, visible _ literal.mem_text,
    visible _ fun character member => literal.mem_text character (List.mem_reverse.mp member),
    List.reverse_reverse]

theorem toList_writeString_text :
    (writeString (String.ofList literal.text)).toList = '"' :: (literal.text ++ ['"']) := by
  have plain : literal.text.flatMap escapeCharacter = literal.text.flatMap fun character =>
      [character] :=
    List.flatMap_congr fun character member =>
      escapeCharacter_of_mem_literalCharacters character (literal.mem_text character member)
  rw [writeString, String.toList_ofList, String.toList_ofList, plain, List.flatMap_singleton']
  rfl

end Literal

end SignalReplay.Json
