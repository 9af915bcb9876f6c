import SignalReplay.Proofs.Json.Exchange
import SignalReplay.Proofs.Json.Literal
import SignalReplay.Proofs.Signal.Reading

/-!
Prices of signals as numbers and as texts. A line with a number literal for a price and the line
with the same literal in quotes are read as one signal, as long as the number is finite.
-/

namespace SignalReplay.SignalLines

open Json

def priceFields : List String :=
  ["entry", "sl", "tp"]

/-- The text of a line around the value of one of its prices. -/
structure PriceSlot where
  field : String
  head : List Char
  tail : List Char
  isPrice : field ∈ priceFields
  opens : Opens field head
  ends : EndsNumber tail

def PriceSlot.fill (slot : PriceSlot) (value : List Char) : String :=
  String.ofList (slot.head ++ (value ++ slot.tail))

/-! ## Fields -/

section Fields

variable {pattern name : String} {number : Nat} {left right : Value}
  {lefts rights : List (String × Value)}

theorem given?_congr (same : member? lefts name = member? rights name) :
    given? lefts name = given? rights name := by
  rw [given?, given?, same]

theorem price_eq_of_foundAlike (found : FoundAlike name left right lefts rights)
    (same : ∀ members others, member? members name = some left →
      member? others name = some right → price members name = price others name) (field : String) :
    price lefts field = price rights field := by
  by_cases here : field = name
  · subst here
    rcases found.here with equal | ⟨leftHere, rightHere⟩
    · rw [price, price, given?_congr equal]
    · exact same lefts rights leftHere rightHere
  · rw [price, price, given?_congr (found.others field here)]

theorem signal_congr
    (same : ∀ field, field ∉ priceFields → given? lefts field = given? rights field)
    (prices : ∀ field, price lefts field = price rights field) :
    signal pattern number lefts = signal pattern number rights := by
  have texts (field : String) (other : field ∉ priceFields) :
      text lefts field = text rights field := by
    rw [text, text, same field other]
  unfold signal identifier timestamp direction notes
  simp only [prices, same "signal_id" (by decide), same "meta" (by decide),
    texts "timestamp" (by decide), texts "direction" (by decide), texts "symbol" (by decide),
    texts "timeframe" (by decide), texts "signal_type" (by decide), texts "session" (by decide)]

end Fields

/-! ## Lines -/

variable {pattern : String} {number : Nat} {slot : PriceSlot}

theorem parse_fill_congr {leftText rightText : List Char} {left right : Node}
    {leftValue rightValue : Value}
    (leftSpells : Spells leftText left) (rightSpells : Spells rightText right)
    (leftRead : left.toValue? (greatestDepth - 1) = some leftValue)
    (rightRead : right.toValue? (greatestDepth - 1) = some rightValue)
    (same : ∀ members others, member? members slot.field = some leftValue →
      member? others slot.field = some rightValue →
        price members slot.field = price others slot.field) :
    parse pattern number (slot.fill leftText) = parse pattern number (slot.fill rightText) := by
  have values := Value.ofText?_exchanged slot.opens slot.ends leftSpells rightSpells leftRead
    rightRead
  unfold parse PriceSlot.fill
  generalize Value.ofText? (String.ofList (slot.head ++ (leftText ++ slot.tail))) = leftFound at *
  generalize Value.ofText? (String.ofList (slot.head ++ (rightText ++ slot.tail))) = rightFound
    at *
  cases values with
  | none => rfl
  | some objects =>
      cases objects with
      | object found =>
          refine signal_congr (fun field other => given?_congr (found.others field ?_))
            (price_eq_of_foundAlike found same)
          rintro rfl
          exact other slot.isPrice

theorem line_eq_ok_some_iff {content : String} {signal : Signal} :
    line pattern number (Utf8.encode content) = .ok (some signal) ↔
      parse pattern number content = .ok signal := by
  rw [line_encode]
  split
  · next blank =>
      rw [parse, Value.ofText?_of_isBlankText blank]
      simp
  · cases parse pattern number content <;> simp

/-! ## Literals -/

variable (literal : Literal)

def quoted (text : List Char) : List Char :=
  '"' :: (text ++ ['"'])

theorem spells_text : Spells literal.text (.number literal.numeral) :=
  ⟨.number literal.numeral, fun _ => rfl,
    fun _ ends => Token.scanToken_of_scanNumber (literal.scanNumber_text ends)⟩

theorem spells_writeString (text : String) :
    Spells (writeString text).toList (.string (some text)) :=
  ⟨.string (some text), fun _ => rfl, fun rest _ => Token.scanToken_writeString text rest⟩

theorem spells_quoted :
    Spells (quoted literal.text) (.string (some (String.ofList literal.text))) := by
  rw [quoted, ← literal.toList_writeString_text]
  exact spells_writeString _

section Values

variable {members : List (String × Value)} {field : String}

theorem price_number {found : Number} (here : member? members field = some (.number found)) :
    price members field = .ok (.ofFloat found.toFloat) := by
  rw [price, given?, here]

theorem price_string {text : String} {value : Quantity}
    (read : Numeral.read (Text.trim text) = .ok value)
    (here : member? members field = some (.string text)) : price members field = .ok value := by
  rw [price, given?, here]
  dsimp only
  rw [read]
  rfl

end Values

def infinityWord (negative : Bool) : List Char :=
  if negative then ['-', 'i', 'n', 'f'] else ['i', 'n', 'f']

theorem read_infinityWord (negative : Bool) :
    Numeral.read (Text.trim (String.ofList (infinityWord negative))) =
      .ok (.ofFloat (if negative then -Numeral.infinity else Numeral.infinity)) := by
  cases negative <;> decide +kernel

variable {literal : Literal}

theorem parse_number_eq_parse_quoted (finite : literal.decimal.toFloat.isFinite = true) :
    parse pattern number (slot.fill literal.text) =
      parse pattern number (slot.fill (quoted literal.text)) := by
  have read := literal.number?_numeral
  rw [if_pos finite] at read
  rcases Option.map_eq_some_iff.mp read with ⟨found, numberRead, equal⟩
  refine parse_fill_congr (spells_text literal) (spells_quoted literal)
    (congrArg (Option.map Value.number) numberRead) rfl ?_
  intro members others leftHere rightHere
  rw [price_number leftHere, equal, price_string ?_ rightHere]
  rw [literal.trim_text, literal.read_text]

theorem parse_quoted_eq_parse_infinityWord (infinite : literal.decimal.toFloat.isFinite = false) :
    parse pattern number (slot.fill (quoted literal.text)) =
      parse pattern number (slot.fill (quoted (infinityWord literal.negative))) := by
  have spells : Spells (quoted (infinityWord literal.negative))
      (.string (some (String.ofList (infinityWord literal.negative)))) := by
    have written : quoted (infinityWord literal.negative) =
        (writeString (String.ofList (infinityWord literal.negative))).toList := by
      cases literal.negative <;> decide +kernel
    rw [written]
    exact spells_writeString _
  refine parse_fill_congr (spells_quoted literal) spells rfl rfl ?_
  intro members others leftHere rightHere
  have read := literal.read_text
  rw [toFloat_of_not_isFinite infinite] at read
  rw [price_string (read_infinityWord literal.negative) rightHere, price_string ?_ leftHere]
  rw [literal.trim_text, read]
  rfl

@[simp]
theorem PriceSlot.isBlankText_fill (slot : PriceSlot) (value : List Char) :
    Text.isBlankText (slot.fill value) = false := by
  rcases slot.opens with ⟨tokens, before, found, awaits⟩
  rw [← Bool.not_eq_true]
  intro blank
  rw [Text.isBlankText, fill, String.toList_ofList, List.all_append, Bool.and_eq_true] at blank
  rcases Token.ofText_of_all_isBlank blank.1 with none' | none'
  all_goals
    rw [found] at none'
    cases none'
  cases awaits

theorem line_number_of_not_isFinite (infinite : literal.decimal.toFloat.isFinite = false) :
    line pattern number (Utf8.encode (slot.fill literal.text)) =
      .error (.badLine number (slot.fill literal.text) .notJson) := by
  have read := literal.number?_numeral
  rw [infinite, if_neg Bool.false_ne_true, Option.map_eq_none_iff] at read
  have unreadable (depth : Nat) : (Node.number literal.numeral).toValue? depth = none := by
    rw [Node.toValue?, read]
    rfl
  have refused : Value.ofText? (slot.fill literal.text) = none :=
    Value.ofText?_unreadable slot.opens slot.ends (spells_text literal) unreadable
  rw [line_encode, slot.isBlankText_fill, parse, refused]
  rfl

/-- A price may be given as a number literal or as the same literal in quotes: if the literal rounds
to a finite number, both lines are the same signal or neither is one. A literal that rounds to an
infinity is no number of a line, and in quotes it stands for the infinity of its sign. -/
theorem line_of_literal (pattern : String) (number : Nat) (slot : PriceSlot) (literal : Literal)
    (signal : Signal) :
    (literal.decimal.toFloat.isFinite = true →
      (line pattern number (Utf8.encode (slot.fill literal.text)) = .ok (some signal) ↔
        line pattern number (Utf8.encode (slot.fill (quoted literal.text))) =
          .ok (some signal))) ∧
    (literal.decimal.toFloat.isFinite = false →
      line pattern number (Utf8.encode (slot.fill literal.text)) =
        .error (.badLine number (slot.fill literal.text) .notJson) ∧
      (line pattern number (Utf8.encode (slot.fill (quoted literal.text))) = .ok (some signal) ↔
        line pattern number (Utf8.encode (slot.fill (quoted (infinityWord literal.negative)))) =
          .ok (some signal))) := by
  constructor
  · intro finite
    rw [line_eq_ok_some_iff, line_eq_ok_some_iff, parse_number_eq_parse_quoted finite]
  · intro infinite
    refine ⟨line_number_of_not_isFinite infinite, ?_⟩
    rw [line_eq_ok_some_iff, line_eq_ok_some_iff, parse_quoted_eq_parse_infinityWord infinite]

/-! ## A line with an entry price -/

def entrySlot : PriceSlot where
  field := "entry"
  head := ("\x7b\"timestamp\": \"2024-01-02 09:00:00\", \"direction\": \"long\", " ++
    "\"entry\": ").toList
  tail := ", \"sl\": 99.0, \"tp\": 102.0\x7d".toList
  isPrice := List.mem_cons_self
  opens := ⟨[.openObject, .string (some "timestamp"), .colon,
    .string (some "2024-01-02 09:00:00"), .comma, .string (some "direction"), .colon,
    .string (some "long"), .comma, .string (some "entry"), .colon], _, by decide +kernel, rfl⟩
  ends := endsNumber_cons _ (by decide)

def powerOfTen (power : Nat) : Literal where
  negative := false
  whole := ['1']
  fraction := []
  exponent := some ⟨'e', [], Nat.toDigits 10 power, .inl rfl, .inl rfl,
    Decimal.allDigits_toDigits power, Nat.toDigits_ne_nil⟩
  leads := leads_toDigits 1
  allDigits := List.forall_mem_nil _

example : (powerOfTen 400).text = "1e400".toList := by decide

def minusZero : Literal where
  negative := true
  whole := ['0']
  fraction := []
  exponent := none
  leads := Token.leads_zero
  allDigits := List.forall_mem_nil _

theorem exists_line_of_parse {content : String} {value : Quantity}
    (entry : (parse pattern number content).toOption.map (·.entry) = some value) :
    ∃ signal, line pattern number (Utf8.encode content) = .ok (some signal) ∧
      signal.entry = value := by
  rcases Option.map_eq_some_iff.mp entry with ⟨signal, parsed, equal⟩
  exact ⟨signal, line_eq_ok_some_iff.mpr (toOption_eq_some_iff.mp parsed), equal⟩

theorem line_of_literal_entrySlot :
    (∃ signal,
      line Timestamp.standardPattern 1 (Utf8.encode (entrySlot.fill minusZero.text)) =
        .ok (some signal) ∧
      line Timestamp.standardPattern 1 (Utf8.encode (entrySlot.fill (quoted minusZero.text))) =
        .ok (some signal) ∧
      signal.entry = .ofFloat (-0.0)) ∧
    line Timestamp.standardPattern 1 (Utf8.encode (entrySlot.fill (powerOfTen 400).text)) =
      .error (.badLine 1 (entrySlot.fill (powerOfTen 400).text) .notJson) := by
  have zero := line_of_literal Timestamp.standardPattern 1 entrySlot minusZero
  have huge := line_of_literal Timestamp.standardPattern 1 entrySlot (powerOfTen 400)
  have read : (parse Timestamp.standardPattern 1 (entrySlot.fill minusZero.text)).toOption.map
      (·.entry) = some (.ofFloat (-0.0)) := by
    decide +kernel
  rcases exists_line_of_parse read with ⟨signal, loaded, entry⟩
  exact ⟨⟨signal, loaded, ((zero signal).1 (by decide +kernel)).mp loaded, entry⟩,
    ((huge signal).2 (by decide +kernel)).1⟩

theorem line_powerOfTen :
    line Timestamp.standardPattern 1 (Utf8.encode (entrySlot.fill (powerOfTen 400).text)) =
      .error (.badLine 1 (entrySlot.fill (powerOfTen 400).text) .notJson) ∧
    ∃ signal,
      line Timestamp.standardPattern 1
          (Utf8.encode (entrySlot.fill (quoted (powerOfTen 400).text))) =
        .ok (some signal) ∧
      signal.entry = .ofFloat Numeral.infinity :=
  ⟨line_number_of_not_isFinite (by decide +kernel), exists_line_of_parse (by decide +kernel)⟩

end SignalReplay.SignalLines
