import SignalReplay.Json.Value

/-!
JSON texts as lists of tokens. Each scanner takes its token from the front of the text and leaves
a shorter rest. A string whose escapes do not spell a text is still a token, and so is a number of
any size: whether their content can be used is decided where it is used.
-/

namespace SignalReplay.Json

structure Numeral where
  decimal : Decimal
  /-- Written without a point and without an exponent. -/
  isWhole : Bool
deriving DecidableEq, Repr

inductive Token
  | null
  | boolean (value : Bool)
  | number (numeral : Numeral)
  /-- The content is missing if the escapes do not spell a text. -/
  | string (content : Option String)
  | openArray
  | closeArray
  | openObject
  | closeObject
  | colon
  | comma
deriving DecidableEq, Repr

namespace Token

/-! ## Strings -/

/-- A piece of a string: a character, or a code of 16 bits that was written in digits. -/
inductive Piece
  | character (value : Char)
  | unit (code : Nat)
deriving DecidableEq, Repr

def hexValue? (character : Char) : Option Nat :=
  if '0' ≤ character && character ≤ '9' then some (character.toNat - '0'.toNat)
  else if 'a' ≤ character && character ≤ 'f' then some (character.toNat - 'a'.toNat + 10)
  else if 'A' ≤ character && character ≤ 'F' then some (character.toNat - 'A'.toNat + 10)
  else none

def unit? (first second third fourth : Char) : Option Piece := do
  return .unit (((← hexValue? first) * 16 + (← hexValue? second)) * 256 +
    (← hexValue? third) * 16 + (← hexValue? fourth))

def escaped? : Char → Option Piece
  | '"' => some (.character '"')
  | '\\' => some (.character '\\')
  | '/' => some (.character '/')
  | 'b' => some (.character (Char.ofNat 0x8))
  | 'f' => some (.character (Char.ofNat 0xC))
  | 'n' => some (.character '\n')
  | 'r' => some (.character '\r')
  | 't' => some (.character '\t')
  | _ => none

def scanString : List Char → Option (List Piece × List Char)
  | [] => none
  | '"' :: rest => some ([], rest)
  | '\\' :: 'u' :: first :: second :: third :: fourth :: rest => do
    let piece ← unit? first second third fourth
    let (pieces, rest) ← scanString rest
    return (piece :: pieces, rest)
  | '\\' :: letter :: rest => do
    let piece ← escaped? letter
    let (pieces, rest) ← scanString rest
    return (piece :: pieces, rest)
  | character :: rest =>
    if character.toNat < 0x20 || character == '\\' then none
    else do
      let (pieces, rest) ← scanString rest
      return (.character character :: pieces, rest)

/-- The text that pieces spell. A code outside the surrogates is a character, a high surrogate
needs a low one right after it, and no other use of them is a text. -/
def assemble : List Piece → Option (List Char)
  | [] => some []
  | .character value :: rest => (assemble rest).map (value :: ·)
  | .unit high :: .unit low :: rest =>
    if high < 0xD800 || 0xDFFF < high then
      (assemble (.unit low :: rest)).map (Char.ofNat high :: ·)
    else if high < 0xDC00 && 0xDC00 ≤ low && low ≤ 0xDFFF then
      (assemble rest).map
        (Char.ofNat (0x10000 + (high - 0xD800) * 0x400 + (low - 0xDC00)) :: ·)
    else none
  | .unit code :: rest =>
    if code < 0xD800 || 0xDFFF < code then (assemble rest).map (Char.ofNat code :: ·)
    else none

/-! ## Numbers -/

/-- The digits before the point: a zero alone, or digits that do not begin with zero. -/
def scanWhole (text : List Char) : Option (List Char × List Char) :=
  match text with
  | '0' :: rest => some (['0'], rest)
  | _ =>
    let (digits, rest) := Decimal.spanDigits text
    if digits.isEmpty then none else some (digits, rest)

def scanFraction (text : List Char) : Option (List Char × List Char) :=
  match text with
  | '.' :: rest =>
    let (digits, rest) := Decimal.spanDigits rest
    if digits.isEmpty then none else some (digits, rest)
  | _ => some ([], text)

def scanSign : List Char → Bool × List Char
  | '-' :: rest => (true, rest)
  | '+' :: rest => (false, rest)
  | text => (false, text)

def scanExponent (text : List Char) : Option (Option Int × List Char) :=
  match text with
  | [] => some (none, [])
  | mark :: after =>
    if mark == 'e' || mark == 'E' then
      let (negative, rest) := scanSign after
      let (digits, rest) := Decimal.spanDigits rest
      if digits.isEmpty then none
      else
        let value : Int := Decimal.valueOfDigits digits
        some (some (if negative then -value else value), rest)
    else some (none, text)

def scanMagnitude (negative : Bool) (text : List Char) : Option (Numeral × List Char) := do
  let (whole, rest) ← scanWhole text
  let (fraction, rest) ← scanFraction rest
  let (exponent, rest) ← scanExponent rest
  let decimal := Decimal.ofParts negative whole fraction (exponent.getD 0)
  return (⟨decimal, fraction.isEmpty && exponent.isNone⟩, rest)

def scanNumber (text : List Char) : Option (Numeral × List Char) :=
  match text with
  | '-' :: rest => scanMagnitude true rest
  | _ => scanMagnitude false text

/-! ## Every scanner leaves a shorter rest -/

theorem spanDigits_length (text : List Char) :
    (Decimal.spanDigits text).2.length ≤ text.length := by
  exact (List.dropWhile_sublist _).length_le

theorem spanDigits_shorter (text : List Char) (taken : (Decimal.spanDigits text).1 ≠ []) :
    (Decimal.spanDigits text).2.length < text.length := by
  simp only [Decimal.spanDigits] at taken ⊢
  have whole := congrArg List.length (List.takeWhile_append_dropWhile
    (p := Decimal.isDigit) (l := text))
  have positive := List.length_pos_iff.mpr taken
  simp only [List.length_append] at whole
  omega

theorem scanString_shorter {text rest : List Char} {pieces : List Piece}
    (found : scanString text = some (pieces, rest)) : rest.length < text.length := by
  fun_induction scanString text generalizing pieces with
  | case1 => cases found
  | case2 after =>
      cases found
      simp
  | case3 first second third fourth after induction =>
      simp only [Option.bind_eq_bind, Option.bind_eq_some_iff] at found
      obtain ⟨_, _, ⟨_, after⟩, scanned, equal⟩ := found
      cases equal
      have := induction scanned
      simp only [List.length_cons] at this ⊢
      omega
  | case4 letter after _ induction =>
      simp only [Option.bind_eq_bind, Option.bind_eq_some_iff] at found
      obtain ⟨_, _, ⟨_, after⟩, scanned, equal⟩ := found
      cases equal
      have := induction scanned
      simp only [List.length_cons] at this ⊢
      omega
  | case5 => cases found
  | case6 character after _ _ _ _ induction =>
      simp only [Option.bind_eq_bind, Option.bind_eq_some_iff] at found
      obtain ⟨⟨_, after⟩, scanned, equal⟩ := found
      cases equal
      have := induction scanned
      simp only [List.length_cons] at this ⊢
      omega

theorem scanWhole_shorter {text rest digits : List Char}
    (found : scanWhole text = some (digits, rest)) : rest.length < text.length := by
  unfold scanWhole at found
  split at found
  · cases found
    simp
  · dsimp only at found
    split at found
    · cases found
    · next taken =>
      cases found
      exact spanDigits_shorter text (by simpa using taken)

theorem scanFraction_length {text rest digits : List Char}
    (found : scanFraction text = some (digits, rest)) : rest.length ≤ text.length := by
  unfold scanFraction at found
  split at found
  · next after =>
    dsimp only at found
    split at found
    · cases found
    · cases found
      have := spanDigits_length after
      simp only [List.length_cons]
      omega
  · cases found
    exact Nat.le_refl _

theorem scanSign_length (text : List Char) : (scanSign text).2.length ≤ text.length := by
  unfold scanSign
  split <;> simp

theorem scanExponent_length {text rest : List Char} {exponent : Option Int}
    (found : scanExponent text = some (exponent, rest)) : rest.length ≤ text.length := by
  unfold scanExponent at found
  split at found
  · cases found
    exact Nat.le_refl _
  · next mark after =>
    split at found
    · dsimp only at found
      split at found
      · cases found
      · cases found
        have signed := scanSign_length after
        have spanned := spanDigits_length (scanSign after).2
        simp only [List.length_cons]
        omega
    · cases found
      exact Nat.le_refl _

theorem scanMagnitude_shorter {negative : Bool} {text rest : List Char} {numeral : Numeral}
    (found : scanMagnitude negative text = some (numeral, rest)) :
    rest.length < text.length := by
  simp only [scanMagnitude, Option.bind_eq_bind, Option.bind_eq_some_iff] at found
  obtain ⟨⟨_, afterWhole⟩, whole, ⟨_, afterFraction⟩, fraction, ⟨_, afterExponent⟩, exponent,
    equal⟩ := found
  cases equal
  have := scanWhole_shorter whole
  have := scanFraction_length fraction
  have := scanExponent_length exponent
  simp only at *
  omega

theorem scanNumber_shorter {text rest : List Char} {numeral : Numeral}
    (found : scanNumber text = some (numeral, rest)) : rest.length < text.length := by
  unfold scanNumber at found
  split at found
  · have := scanMagnitude_shorter found
    simp only [List.length_cons]
    omega
  · exact scanMagnitude_shorter found

/-! ## Texts -/

def isSpace (character : Char) : Bool :=
  character == ' ' || character == '\n' || character == '\t' || character == '\r'

def ofMark? : Char → Option Token
  | '[' => some .openArray
  | ']' => some .closeArray
  | '{' => some .openObject
  | '}' => some .closeObject
  | ':' => some .colon
  | ',' => some .comma
  | _ => none

def scanWord : List Char → Option (Token × List Char)
  | 'n' :: 'u' :: 'l' :: 'l' :: rest => some (.null, rest)
  | 't' :: 'r' :: 'u' :: 'e' :: rest => some (.boolean true, rest)
  | 'f' :: 'a' :: 'l' :: 's' :: 'e' :: rest => some (.boolean false, rest)
  | _ => none

theorem scanWord_shorter {text rest : List Char} {token : Token}
    (found : scanWord text = some (token, rest)) : rest.length < text.length := by
  unfold scanWord at found
  split at found
  · cases found
    simp only [List.length_cons]
    omega
  · cases found
    simp only [List.length_cons]
    omega
  · cases found
    simp only [List.length_cons]
    omega
  · cases found

def scanToken (text : List Char) : Option (Token × List Char) :=
  match text with
  | [] => none
  | character :: rest =>
    match ofMark? character with
    | some token => some (token, rest)
    | none =>
      if character == '"' then
        (scanString rest).map fun (pieces, rest) =>
          (.string ((assemble pieces).map String.ofList), rest)
      else if character == '-' || Decimal.isDigit character then
        (scanNumber text).map fun (numeral, rest) => (.number numeral, rest)
      else scanWord text

theorem scanToken_shorter {text rest : List Char} {token : Token}
    (found : scanToken text = some (token, rest)) : rest.length < text.length := by
  unfold scanToken at found
  split at found
  · cases found
  · split at found
    · cases found
      simp
    · split at found
      · simp only [Option.map_eq_some_iff] at found
        obtain ⟨⟨_, after⟩, scanned, equal⟩ := found
        cases equal
        have := scanString_shorter scanned
        simp only [List.length_cons]
        omega
      · split at found
        · simp only [Option.map_eq_some_iff] at found
          obtain ⟨⟨_, after⟩, scanned, equal⟩ := found
          cases equal
          exact scanNumber_shorter scanned
        · exact scanWord_shorter found

def ofText : List Char → Option (List Token)
  | [] => some []
  | character :: rest =>
    if isSpace character then ofText rest
    else
      match _found : scanToken (character :: rest) with
      | none => none
      | some (token, after) => (ofText after).map (token :: ·)
termination_by text => text.length
decreasing_by
  · simp
  · exact scanToken_shorter _found

end Token

end SignalReplay.Json
