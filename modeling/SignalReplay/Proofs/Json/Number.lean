import SignalReplay.Json.Record
import SignalReplay.Proofs.Decimal.Value

/-!
Numbers read back. The text of a finite number is scanned as one numeral, whatever follows that
cannot belong to a number, and the numeral stands for the number that was written.
-/

namespace SignalReplay.Json

open Decimal

def EndsNumber (rest : List Char) : Prop :=
  ∀ character, rest.head? = some character →
    isDigit character = false ∧ character ≠ '.' ∧ character ≠ 'e' ∧ character ≠ 'E'

theorem endsNumber_nil : EndsNumber [] := by
  intro character first
  cases first

theorem EndsNumber.endsDigits {rest : List Char} (ends : EndsNumber rest) : EndsDigits rest :=
  fun character first => (ends character first).1

namespace Token

/-! ## Parts of a number -/

/-- Digits that may stand before the point. -/
structure Leads (digits : List Char) : Prop where
  all_digits : AllDigits digits
  not_empty : digits ≠ []
  zero_alone : digits.head? = some '0' → digits = ['0']

theorem leads_zero : Leads ['0'] := by
  constructor
  · exact allDigits_zeros 1
  · intro empty
    cases empty
  · intro _
    rfl

theorem leads_of_head {digits : List Char} (all : AllDigits digits) (not_empty : digits ≠ [])
    (head : digits.head? ≠ some '0') : Leads digits :=
  ⟨all, not_empty, fun zero => absurd zero head⟩

theorem isEmpty_eq_false {characters : List Char} (not_empty : characters ≠ []) :
    characters.isEmpty = false := by
  cases characters with
  | nil => exact absurd rfl not_empty
  | cons first more => rfl

theorem scanWhole_append {digits rest : List Char} (leads : Leads digits)
    (ends : EndsDigits rest) : scanWhole (digits ++ rest) = some (digits, rest) := by
  by_cases zero : digits.head? = some '0'
  · rw [leads.zero_alone zero]
    rfl
  · have spanned := spanDigits_append leads.all_digits ends
    rw [scanWhole]
    · rw [spanned]
      dsimp only
      rw [isEmpty_eq_false leads.not_empty]
      rfl
    · intro after equal
      apply zero
      rcases List.exists_cons_of_ne_nil leads.not_empty with ⟨first, more, parts⟩
      rw [parts, List.cons_append] at equal
      rw [parts, (List.cons.inj equal).1, List.head?_cons]

theorem scanFraction_point {digits rest : List Char} (all : AllDigits digits)
    (not_empty : digits ≠ []) (ends : EndsDigits rest) :
    scanFraction ('.' :: (digits ++ rest)) = some (digits, rest) := by
  rw [scanFraction, spanDigits_append all ends]
  dsimp only
  rw [isEmpty_eq_false not_empty]
  rfl

theorem scanFraction_none {rest : List Char} (other : rest.head? ≠ some '.') :
    scanFraction rest = some ([], rest) := by
  rw [scanFraction]
  intro after equal
  rw [equal] at other
  exact other rfl

theorem scanExponent_none {rest : List Char} (ends : EndsNumber rest) :
    scanExponent rest = some (none, rest) := by
  cases rest with
  | nil => rfl
  | cons first after =>
      rcases ends first rfl with ⟨_, _, notLower, notUpper⟩
      rw [scanExponent, beq_eq_false_iff_ne.mpr notLower, beq_eq_false_iff_ne.mpr notUpper]
      rfl

def mark (power : Int) : Char :=
  if power < 0 then '-' else '+'

theorem scanExponent_power (power : Int) {rest : List Char} (ends : EndsDigits rest) :
    scanExponent ('e' :: mark power :: (Nat.toDigits 10 power.natAbs ++ rest)) =
      some (some power, rest) := by
  have spanned := spanDigits_append (allDigits_toDigits power.natAbs) ends
  have spelled := valueOfDigits_toDigits power.natAbs
  rw [scanExponent, if_pos (by decide), mark]
  by_cases negative : power < 0
  · rw [if_pos negative, scanSign]
    dsimp only
    rw [spanned]
    dsimp only
    rw [isEmpty_eq_false Nat.toDigits_ne_nil, spelled, if_neg Bool.false_ne_true, if_pos rfl]
    congr 3
    omega
  · rw [if_neg negative, scanSign]
    dsimp only
    rw [spanned]
    dsimp only
    rw [isEmpty_eq_false Nat.toDigits_ne_nil, spelled, if_neg Bool.false_ne_true,
      if_neg Bool.false_ne_true]
    congr 3
    omega

/-! ## Magnitudes -/

theorem scanMagnitude_parts (negative : Bool)
    {text afterWhole afterFraction rest whole fraction : List Char} {exponent : Option Int}
    (wholeFound : scanWhole text = some (whole, afterWhole))
    (fractionFound : scanFraction afterWhole = some (fraction, afterFraction))
    (exponentFound : scanExponent afterFraction = some (exponent, rest)) :
    scanMagnitude negative text =
      some (⟨ofParts negative whole fraction (exponent.getD 0),
        fraction.isEmpty && exponent.isNone⟩, rest) := by
  simp only [scanMagnitude, wholeFound, fractionFound, exponentFound, Option.bind_eq_bind,
    Option.bind_some]
  rfl

theorem scanMagnitude_pointed (negative : Bool) {whole fraction rest : List Char}
    (leads : Leads whole) (all : AllDigits fraction) (not_empty : fraction ≠ [])
    (ends : EndsNumber rest) :
    scanMagnitude negative (whole ++ '.' :: (fraction ++ rest)) =
      some (⟨ofParts negative whole fraction 0, false⟩, rest) := by
  have point : EndsDigits ('.' :: (fraction ++ rest)) := endsDigits_cons _ (by decide)
  rw [scanMagnitude_parts negative (scanWhole_append leads point)
    (scanFraction_point all not_empty ends.endsDigits) (scanExponent_none ends),
    isEmpty_eq_false not_empty]
  rfl

theorem scanMagnitude_scientific (negative : Bool) {first : Char} {fraction rest : List Char}
    (power : Int) (leads : Leads [first]) (all : AllDigits fraction) (ends : EndsNumber rest) :
    scanMagnitude negative (scientific true (first :: fraction) power ++ rest) =
      some (⟨ofParts negative [first] fraction power, false⟩, rest) := by
  have exponentFound := scanExponent_power power ends.endsDigits
  have sign : (if power < 0 then ['-'] else ['+']) = [mark power] := by
    rw [mark]
    split <;> rfl
  have text : scientific true (first :: fraction) power ++ rest =
      [first] ++ ((if fraction.isEmpty then [] else '.' :: fraction) ++
        'e' :: mark power :: (Nat.toDigits 10 power.natAbs ++ rest)) := by
    simp only [scientific, List.drop_succ_cons, List.drop_zero, List.take_succ_cons,
      List.take_zero, if_true, sign, List.append_assoc, List.cons_append, List.nil_append]
  rw [text]
  generalize tail : 'e' :: mark power :: (Nat.toDigits 10 power.natAbs ++ rest) = afterFraction
    at exponentFound ⊢
  have letter : EndsDigits afterFraction := by
    rw [← tail]
    exact endsDigits_cons _ (by decide)
  cases fraction with
  | nil =>
      have noPoint : afterFraction.head? ≠ some '.' := by
        rw [← tail, List.head?_cons]
        decide
      rw [List.isEmpty_nil, if_pos rfl, List.nil_append,
        scanMagnitude_parts negative (scanWhole_append leads letter) (scanFraction_none noPoint)
          exponentFound]
      rfl
  | cons second more =>
      have point : EndsDigits ('.' :: (second :: more ++ afterFraction)) :=
        endsDigits_cons _ (by decide)
      exact scanMagnitude_parts negative (scanWhole_append leads point)
        (scanFraction_point all (List.cons_ne_nil _ _) letter) exponentFound

structure Names (numeral : Numeral) (negative : Bool) (x : ℚ) : Prop where
  not_whole : numeral.isWhole = false
  sign : numeral.decimal.negative = negative
  value : (numeral.decimal.digits : ℚ) * 10 ^ numeral.decimal.exponent = x

/-- Zeros at the end of the digits read may belong to the exponent of the digits named. -/
theorem names_parts (negative : Bool) {whole fraction : List Char} {exponent : Int} {x : ℚ}
    (digits : List Char) (zeros : Nat)
    (value : valueOfDigits (whole ++ fraction) = valueOfDigits digits * 10 ^ zeros)
    (named : (valueOfDigits digits : ℚ) * 10 ^ (exponent - fraction.length + zeros) = x) :
    Names ⟨ofParts negative whole fraction exponent, false⟩ negative x := by
  constructor
  · rfl
  · rfl
  · rw [ofParts, value, ← named, ten_zpow_add, zpow_natCast]
    push_cast
    ring

/-- The text is scanned as a numeral that stands for the number, whatever follows that cannot
belong to a number. -/
def Denotes (text : List Char) (negative : Bool) (x : ℚ) : Prop :=
  ∃ numeral, Names numeral negative x ∧ ∀ rest, EndsNumber rest →
    scanMagnitude negative (text ++ rest) = some (numeral, rest)

theorem denotes_pointed (negative : Bool) {whole fraction : List Char} {x : ℚ}
    (leads : Leads whole) (all : AllDigits fraction) (not_empty : fraction ≠ [])
    (digits : List Char) (zeros : Nat)
    (value : valueOfDigits (whole ++ fraction) = valueOfDigits digits * 10 ^ zeros)
    (named : (valueOfDigits digits : ℚ) * 10 ^ (0 - fraction.length + zeros : ℤ) = x) :
    Denotes (whole ++ '.' :: fraction) negative x := by
  refine ⟨⟨ofParts negative whole fraction 0, false⟩, names_parts negative digits zeros value named,
    ?_⟩
  intro rest ends
  rw [List.append_assoc, List.cons_append]
  exact scanMagnitude_pointed negative leads all not_empty ends

section Positional

variable {digits : List Char} {power : Int} {bits : Nat}

/-- The digits on both sides of a point spell what digits with a power of ten spell, up to zeros at
the end. -/
structure Splits (digits : List Char) (power : Int) (whole fraction : List Char) (zeros : Nat) :
    Prop where
  leads : Leads whole
  all_digits : AllDigits fraction
  value : valueOfDigits (whole ++ fraction) = valueOfDigits digits * 10 ^ zeros
  exponent : power + 1 - digits.length = 0 - fraction.length + zeros

theorem splits_before (spells : Spells bits digits power) (before : power + 1 ≤ 0) :
    Splits digits power ['0'] (List.replicate (-(power + 1)).toNat '0' ++ digits) 0 := by
  refine ⟨leads_zero, (allDigits_zeros _).append spells.all_digits, ?_, ?_⟩
  · exact (valueOfDigits_zeros_append (_ + 1) digits).trans (Nat.mul_one _).symm
  · rw [List.length_append, List.length_replicate]
    omega

theorem splits_after (spells : Spells bits digits power)
    (after : (digits.length : Int) ≤ power + 1) :
    Splits digits power (digits ++ List.replicate ((power + 1).toNat - digits.length) '0') []
      ((power + 1).toNat - digits.length) := by
  refine ⟨leads_of_head (spells.all_digits.append (allDigits_zeros _)) ?_ ?_,
    List.forall_mem_nil _, ?_, ?_⟩
  · exact List.append_ne_nil_of_left_ne_nil spells.not_empty _
  · rw [List.head?_append_of_ne_nil _ spells.not_empty]
    exact spells.head_not_zero
  · rw [List.append_nil, valueOfDigits_append_zeros]
  · rw [List.length_nil]
    omega

theorem splits_between (spells : Spells bits digits power) (before : ¬ power + 1 ≤ 0)
    (after : ¬ (digits.length : Int) ≤ power + 1) :
    Splits digits power (digits.take (power + 1).toNat) (digits.drop (power + 1).toNat) 0 := by
  refine ⟨leads_of_head ?_ ?_ ?_, ?_, ?_, ?_⟩
  · exact fun character member => spells.all_digits character (List.mem_of_mem_take member)
  · intro empty
    have length := congrArg List.length empty
    rw [List.length_take, List.length_nil] at length
    omega
  · rw [List.head?_take, if_neg (by omega)]
    exact spells.head_not_zero
  · exact fun character member => spells.all_digits character (List.mem_of_mem_drop member)
  · rw [List.take_append_drop, Nat.pow_zero, Nat.mul_one]
  · rw [List.length_drop]
    omega

/-- Digits with a point are split at it, or end with the tail of whole numbers. -/
theorem exists_splits (tail : List Char) (spells : Spells bits digits power) :
    ∃ whole fraction zeros, Splits digits power whole fraction zeros ∧
      positional tail digits (power + 1) =
        whole ++ if fraction.isEmpty then tail else '.' :: fraction := by
  rw [positional]
  by_cases before : power + 1 ≤ 0
  · refine ⟨_, _, _, splits_before spells before, ?_⟩
    rw [if_pos before, isEmpty_eq_false (List.append_ne_nil_of_right_ne_nil _ spells.not_empty),
      if_neg Bool.false_ne_true]
    rfl
  by_cases after : (digits.length : Int) ≤ power + 1
  · refine ⟨_, _, _, splits_after spells after, ?_⟩
    rw [if_neg before, if_pos after]
    rfl
  · refine ⟨_, _, _, splits_between spells before after, ?_⟩
    have not_empty : digits.drop (power + 1).toNat ≠ [] := by
      rw [ne_eq, List.drop_eq_nil_iff]
      omega
    rw [if_neg before, if_neg after, isEmpty_eq_false not_empty, if_neg Bool.false_ne_true,
      List.append_assoc]
    rfl

theorem denotes_positional (negative : Bool) (spells : Spells bits digits power) :
    Denotes (positional ['.', '0'] digits (power + 1)) negative (spelled digits power) := by
  rcases exists_splits ['.', '0'] spells with ⟨whole, fraction, zeros, splits, text⟩
  rw [text]
  cases fraction with
  | nil =>
      -- A whole number is written with one more zero, behind the point.
      apply denotes_pointed negative splits.leads (allDigits_zeros 1) (List.cons_ne_nil _ _) digits
        (zeros + 1)
      · have value := splits.value
        rw [List.append_nil] at value
        rw [valueOfDigits_append_zeros whole 1, value, Nat.mul_assoc, ← Nat.pow_add]
      · rw [spelled, splits.exponent, List.length_replicate]
        congr 2
        push_cast
        rw [List.length_nil]
        omega
  | cons digit more =>
      refine denotes_pointed negative splits.leads splits.all_digits (List.cons_ne_nil _ _) digits
        zeros splits.value ?_
      rw [spelled, splits.exponent]

end Positional

theorem denotes_scientific (negative : Bool) {digits : List Char} {power : Int} {bits : Nat}
    (spells : Spells bits digits power) :
    Denotes (scientific true digits power) negative (spelled digits power) := by
  rcases spells with ⟨all, not_empty, head, _⟩
  rcases List.exists_cons_of_ne_nil not_empty with ⟨first, fraction, parts⟩
  rw [parts] at all head ⊢
  have leads : Leads [first] := by
    apply leads_of_head
    · intro character member
      rw [List.mem_singleton.mp member]
      exact all first (List.mem_cons_self ..)
    · exact List.cons_ne_nil _ _
    · exact head
  refine ⟨⟨ofParts negative [first] fraction power, false⟩, ?_, ?_⟩
  · apply names_parts negative (first :: fraction) 0
    · exact (Nat.mul_one _).symm
    · rw [spelled, List.length_cons]
      congr 2
      omega
  · intro rest ends
    exact scanMagnitude_scientific negative power leads
      (fun character member => all character (List.mem_cons_of_mem _ member)) ends

/-- The text of a finite magnitude is scanned as the numeral of its shortest digits. -/
theorem denotes_magnitude (negative : Bool) {bits : Nat} (finite : bits < Binary64.infinityBits) :
    Denotes (numberLayout.magnitude bits) negative (shortestValue numberLayout.tie bits) := by
  by_cases zero : bits = 0
  · rw [zero]
    exact denotes_pointed negative leads_zero (allDigits_zeros 1) (List.cons_ne_nil _ _) [] 0 rfl
      (by rw [shortestValue_zero]; exact zero_mul _)
  · rcases magnitude_spells numberLayout (Nat.pos_of_ne_zero zero) finite with
      ⟨digits, power, spells, value, text⟩
    rw [text, ← value]
    by_cases plain : numberLayout.isPositional power = true
    · rw [if_pos plain]
      exact denotes_positional negative spells
    · rw [if_neg plain]
      exact denotes_scientific negative spells

/-! ## Numbers -/

theorem digit_of_scanMagnitude {negative : Bool} {text rest : List Char} {numeral : Numeral}
    (found : scanMagnitude negative text = some (numeral, rest)) :
    ∃ digit more, text = digit :: more ∧ isDigit digit = true := by
  simp only [scanMagnitude, Option.bind_eq_bind, Option.bind_eq_some_iff] at found
  rcases found with ⟨⟨whole, after⟩, wholeFound, _⟩
  rw [scanWhole.eq_def] at wholeFound
  split at wholeFound
  · exact ⟨_, _, rfl, by decide⟩
  · cases text with
    | nil => cases wholeFound
    | cons digit more =>
        by_cases isFirst : isDigit digit = true
        · exact ⟨digit, more, rfl, isFirst⟩
        · rw [spanDigits, List.takeWhile_cons_of_neg isFirst] at wholeFound
          cases wholeFound

@[simp]
theorem scanNumber_negative (text : List Char) :
    scanNumber ('-' :: text) = scanMagnitude true text := rfl

theorem scanNumber_digit {digit : Char} (text : List Char) (isFirst : isDigit digit = true) :
    scanNumber (digit :: text) = scanMagnitude false (digit :: text) := by
  rw [scanNumber]
  intro rest equal
  rw [(List.cons.inj equal).1] at isFirst
  exact absurd isFirst (by decide)

theorem scanToken_of_scanNumber {text rest : List Char} {numeral : Numeral}
    (found : scanNumber text = some (numeral, rest)) :
    scanToken text = some (.number numeral, rest) := by
  have front : ∃ first more, text = first :: more ∧ (first = '-' ∨ isDigit first = true) := by
    rw [scanNumber.eq_def] at found
    split at found
    · exact ⟨_, _, rfl, Or.inl rfl⟩
    · rcases digit_of_scanMagnitude found with ⟨digit, more, equal, isFirst⟩
      exact ⟨digit, more, equal, Or.inr isFirst⟩
  rcases front with ⟨first, more, equal, sign⟩
  have noMark : ofMark? first = none := by
    rw [ofMark?.eq_def]
    split
    all_goals first
      | rfl
      | exact absurd sign (by decide)
  have noQuote : (first == '"') = false := by
    apply beq_eq_false_iff_ne.mpr
    intro quote
    rw [quote] at sign
    exact absurd sign (by decide)
  have number : (first == '-' || isDigit first) = true := by
    rw [Bool.or_eq_true, beq_iff_eq]
    exact sign
  rw [equal] at found ⊢
  rw [scanToken, noMark, noQuote, number, if_neg Bool.false_ne_true, if_pos rfl, found]
  rfl

end Token

def Number.numeral? (number : Number) : Option Numeral :=
  (Token.scanNumber number.write.toList).map Prod.fst

def Number.token (number : Number) : Token :=
  number.numeral?.elim .null .number

def Number.node (number : Number) : Node :=
  number.numeral?.elim .null .number

theorem scanNumber_signed {negative : Bool} {text rest : List Char} {numeral : Numeral}
    (scanned : Token.scanMagnitude negative (text ++ rest) = some (numeral, rest)) :
    Token.scanNumber ((if negative then '-' :: text else text) ++ rest) = some (numeral, rest) := by
  cases negative with
  | true =>
      rw [if_pos rfl, List.cons_append, Token.scanNumber_negative]
      exact scanned
  | false =>
      rcases Token.digit_of_scanMagnitude scanned with ⟨digit, more, front, isFirst⟩
      rw [if_neg Bool.false_ne_true, front, Token.scanNumber_digit more isFirst, ← front]
      exact scanned

/-- A finite number is scanned as the numeral of its shortest digits, which stands for it. -/
theorem scanNumber_real {value : Float} (finite : value.isFinite = true) :
    ∃ numeral : Numeral, numeral.number? = some (.real value) ∧
      numeral.decimal.toRat = Binary64.signed (Binary64.isNegative value)
        (shortestValue numberLayout.tie (Binary64.magnitudeBits value)) ∧
      ∀ rest, EndsNumber rest →
        Token.scanNumber ((Number.real value).write.toList ++ rest) = some (numeral, rest) := by
  have defined := Binary64.isNaN_of_isFinite finite
  have small : Binary64.magnitudeBits value < Binary64.infinityBits := by
    rw [Binary64.isFinite_eq, decide_eq_true_eq] at finite
    exact finite
  rcases Token.denotes_magnitude (Binary64.isNegative value) small with ⟨numeral, names, scanned⟩
  have named : nearestBits numeral.decimal.digits numeral.decimal.exponent =
      Binary64.magnitudeBits value := by
    rw [nearestBits_eq_iff, names.value]
    exact rounds_shortestValue numberLayout.tie small
  have restored : numeral.decimal.toFloat = value := by
    rw [toFloat, names.sign, named, Binary64.ofMagnitude_fields defined]
  refine ⟨numeral, ?_, by rw [Decimal.toRat, names.sign, names.value], ?_⟩
  · simp only [Numeral.number?, names.not_whole, Bool.false_and, Bool.false_eq_true, if_false,
      restored, finite, if_true]
  · intro rest ends
    rw [Number.write, if_pos finite, Layout.write, defined, if_neg Bool.false_ne_true]
    dsimp only
    rw [if_neg (Nat.ne_of_lt small), String.toList_ofList]
    exact scanNumber_signed (scanned rest ends)

theorem leads_toDigits (number : Nat) : Token.Leads (Nat.toDigits 10 number) := by
  by_cases zero : number = 0
  · rw [zero]
    exact Token.leads_zero
  · exact Token.leads_of_head (allDigits_toDigits number) Nat.toDigits_ne_nil
      (head?_toDigits (Nat.pos_of_ne_zero zero))

theorem scanNumber_whole (value : Int) {rest : List Char} (ends : EndsNumber rest) :
    Token.scanNumber ((Number.whole value).write.toList ++ rest) =
      some (⟨.ofWhole value, true⟩, rest) := by
  have noPoint : rest.head? ≠ some '.' := by
    intro point
    exact (ends '.' point).2.1 rfl
  have scanned (negative : Bool) (number : Nat) :
      Token.scanMagnitude negative (Nat.toDigits 10 number ++ rest) =
        some (⟨⟨negative, number, 0⟩, true⟩, rest) := by
    rw [Token.scanMagnitude_parts negative
      (Token.scanWhole_append (leads_toDigits number) ends.endsDigits)
      (Token.scanFraction_none noPoint) (Token.scanExponent_none ends), ofParts, List.append_nil,
      valueOfDigits_toDigits]
    rfl
  rw [Number.write, ofWhole]
  cases value with
  | ofNat number =>
      have text : (toString (Int.ofNat number)).toList = Nat.toDigits 10 number := by
        rw [← Nat.toList_repr]
        rfl
      have positive := scanned false number
      rcases Token.digit_of_scanMagnitude positive with ⟨digit, more, front, isFirst⟩
      rw [text, front, Token.scanNumber_digit more isFirst, ← front, positive]
      rfl
  | negSucc number =>
      have text : (toString (Int.negSucc number)).toList = '-' :: Nat.toDigits 10 (number + 1) := by
        rw [← Nat.toList_repr]
        exact String.toList_append
      rw [text, List.cons_append, Token.scanNumber_negative, scanned,
        decide_eq_true (Int.negSucc_lt_zero number)]
      rfl

theorem scanToken_number (number : Number) {rest : List Char} (ends : EndsNumber rest) :
    Token.scanToken (number.write.toList ++ rest) = some (number.token, rest) := by
  cases number with
  | whole value =>
      have alone := scanNumber_whole value endsNumber_nil
      rw [List.append_nil] at alone
      rw [Token.scanToken_of_scanNumber (scanNumber_whole value ends), Number.token,
        Number.numeral?, alone]
      rfl
  | real value =>
      by_cases finite : value.isFinite = true
      · rcases scanNumber_real finite with ⟨numeral, _, _, scanned⟩
        have alone := scanned [] endsNumber_nil
        rw [List.append_nil] at alone
        rw [Token.scanToken_of_scanNumber (scanned rest ends), Number.token, Number.numeral?, alone]
        rfl
      · have text : (Number.real value).write = "null" := by
          rw [Number.write, if_neg finite]
        rw [Number.token, Number.numeral?, text]
        rfl

theorem number_node_real {value : Float} (finite : value.isFinite = true) :
    Reader.number (Number.real value).node = some (.real value) := by
  rcases scanNumber_real finite with ⟨numeral, named, _, scanned⟩
  have alone := scanned [] endsNumber_nil
  rw [List.append_nil] at alone
  rw [Number.node, Number.numeral?, alone]
  exact named

theorem exists_node_real {value : Float} (finite : value.isFinite = true) :
    ∃ numeral : Numeral, (Number.real value).node = .number numeral ∧
      numeral.decimal.toRat = Binary64.signed (Binary64.isNegative value)
        (shortestValue numberLayout.tie (Binary64.magnitudeBits value)) := by
  rcases scanNumber_real finite with ⟨numeral, _, value, scanned⟩
  have alone := scanned [] endsNumber_nil
  rw [List.append_nil] at alone
  refine ⟨numeral, ?_, value⟩
  rw [Number.node, Number.numeral?, alone]
  rfl

theorem node_real_of_not_finite {value : Float} (infinite : value.isFinite = false) :
    (Number.real value).node = .null := by
  have text : (Number.real value).write = "null" := by
    rw [Number.write, infinite, if_neg Bool.false_ne_true]
  rw [Number.node, Number.numeral?, text]
  rfl

theorem number_node_whole {value : Int} (low : -(signedBound : Int) ≤ value)
    (high : value < unsignedBound) :
    Reader.number (Number.whole value).node = some (.whole value) := by
  have alone := scanNumber_whole value endsNumber_nil
  rw [List.append_nil] at alone
  rw [Number.node, Number.numeral?, alone]
  change (Numeral.mk (.ofWhole value) true).number? = _
  rw [Numeral.number?, ofWhole]
  dsimp only
  by_cases negative : value < 0
  · have small : value.natAbs ≤ signedBound := by omega
    have nonzero : value.natAbs ≠ 0 := by omega
    have restored : -((value.natAbs : Nat) : Int) = value := by omega
    simp only [decide_eq_true negative, Bool.not_true, Bool.and_false, Bool.false_and,
      Bool.false_eq_true, if_false, decide_eq_true small, decide_eq_true nonzero, Bool.and_true,
      if_true, restored]
  · have small : value.natAbs < unsignedBound := by omega
    have restored : ((value.natAbs : Nat) : Int) = value := by omega
    simp only [decide_eq_false negative, Bool.not_false, decide_eq_true small, Bool.and_true,
      if_true, restored]

end SignalReplay.Json
