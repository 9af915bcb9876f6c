/-!
UTF-8 as a machine that takes one byte at a time. `scan` splits any byte list into characters
and broken sequences; `decode` accepts exactly the lists without a broken sequence and otherwise
says where the first one starts, and `decodeLossy` writes a replacement character for each.
-/

namespace SignalReplay.Utf8

/-- A character whose later bytes are still awaited: the bytes taken so far, the code they
carry, the number of bytes still owed and the bounds of the next one. -/
structure Unfinished where
  taken : Nat
  code : Nat
  owed : Nat
  low : UInt8
  high : UInt8

inductive Piece
  /-- A character and the number of bytes that spell it. -/
  | character (value : Char) (width : Nat)
  /-- Bytes that no continuation could turn into a character. -/
  | broken (width : Nat)
  /-- The beginning of a character at the end of the list. -/
  | cut (width : Nat)
deriving DecidableEq, Repr

/-- What the first byte of a sequence says. The narrowed bounds exclude overlong spellings,
surrogates and codes above U+10FFFF. -/
def start (byte : UInt8) : Piece ⊕ Unfinished :=
  if byte < 0x80 then .inl (.character (Char.ofNat byte.toNat) 1)
  else if byte < 0xC2 then .inl (.broken 1)
  else if byte < 0xE0 then .inr ⟨1, byte.toNat % 0x20, 1, 0x80, 0xBF⟩
  else if byte == 0xE0 then .inr ⟨1, 0, 2, 0xA0, 0xBF⟩
  else if byte == 0xED then .inr ⟨1, 0xD, 2, 0x80, 0x9F⟩
  else if byte < 0xF0 then .inr ⟨1, byte.toNat % 0x10, 2, 0x80, 0xBF⟩
  else if byte == 0xF0 then .inr ⟨1, 0, 3, 0x90, 0xBF⟩
  else if byte < 0xF4 then .inr ⟨1, byte.toNat % 0x8, 3, 0x80, 0xBF⟩
  else if byte == 0xF4 then .inr ⟨1, 4, 3, 0x80, 0x8F⟩
  else .inl (.broken 1)

def Unfinished.continue? (unfinished : Unfinished) (byte : UInt8) :
    Option (Piece ⊕ Unfinished) :=
  if unfinished.low ≤ byte && byte ≤ unfinished.high then
    let code := unfinished.code * 0x40 + byte.toNat % 0x40
    let taken := unfinished.taken + 1
    match unfinished.owed with
    | 0 | 1 => some (.inl (.character (Char.ofNat code) taken))
    | owed + 1 => some (.inr ⟨taken, code, owed, 0x80, 0xBF⟩)
  else none

/-- Split a byte list into its pieces. A byte that does not continue an unfinished character
ends that character as broken and starts a sequence of its own. -/
def scan : Option Unfinished → List UInt8 → List Piece
  | none, [] => []
  | some unfinished, [] => [.cut unfinished.taken]
  | none, byte :: rest =>
    match start byte with
    | .inl piece => piece :: scan none rest
    | .inr unfinished => scan (some unfinished) rest
  | some unfinished, byte :: rest =>
    match unfinished.continue? byte with
    | some (.inl piece) => piece :: scan none rest
    | some (.inr longer) => scan (some longer) rest
    | none =>
      .broken unfinished.taken ::
        match start byte with
        | .inl piece => piece :: scan none rest
        | .inr restarted => scan (some restarted) rest

/-- Where a byte list stops being UTF-8: the bytes before that place are a text, and the
sequence there is either broken, after the given number of bytes, or cut off by the end. -/
structure Fault where
  validUpTo : Nat
  width : Option Nat
deriving DecidableEq, Repr

def Fault.message (fault : Fault) : String :=
  match fault.width with
  | some width => s!"invalid utf-8 sequence of {width} bytes from index {fault.validUpTo}"
  | none => s!"incomplete utf-8 byte sequence from index {fault.validUpTo}"

def characters (position : Nat) : List Piece → Except Fault (List Char)
  | [] => .ok []
  | .character value width :: rest =>
    (characters (position + width) rest).map (value :: ·)
  | .broken width :: _ => .error ⟨position, some width⟩
  | .cut _ :: _ => .error ⟨position, none⟩

def decode (bytes : List UInt8) : Except Fault String :=
  (characters 0 (scan none bytes)).map String.ofList

def Piece.orReplacement : Piece → Char
  | .character value _ => value
  | .broken _ | .cut _ => Char.ofNat 0xFFFD

/-- The text that a byte list spells, with U+FFFD for each sequence that spells nothing. -/
def decodeLossy (bytes : List UInt8) : String :=
  String.ofList ((scan none bytes).map Piece.orReplacement)

def encode (text : String) : List UInt8 :=
  text.toUTF8.toList

end SignalReplay.Utf8
