import SignalReplay.Text.CaseTable

/-!
Small letters. Every capital is replaced by its small form; a capital sigma at the end of a word
becomes the final sigma, and the dotted capital I keeps its dot as a mark of its own.
-/

namespace SignalReplay.Text

def inRanges (ranges : Array (Nat × Nat)) (character : Char) : Bool :=
  ranges.any fun (first, last) => first ≤ character.toNat && character.toNat ≤ last

def smallForm (character : Char) : Char :=
  let code := character.toNat
  if code < 0x80 then
    if 0x41 ≤ code && code ≤ 0x5A then Char.ofNat (code + 0x20) else character
  else
    let run? := smallFormRuns.find? fun (first, last, step, _) =>
      first ≤ code && code ≤ last && (code - first) % step == 0
    match run? with
    | some (_, _, _, distance) => Char.ofNat (code + distance).toNat
    | none => character

/-- Whether the first character that is not ignored has a case. -/
def meetsCased (characters : List Char) : Bool :=
  match characters.dropWhile (inRanges caseIgnorableRanges) with
  | [] => false
  | character :: _ => inRanges casedRanges character

/-- The small form of a character between the characters before it, nearest first, and those
after it. -/
def smallFormWithin (before : List Char) (character : Char) (after : List Char) : List Char :=
  if character == 'Σ' then
    if meetsCased before && !meetsCased after then ['ς'] else ['σ']
  else if character == 'İ' then ['i', Char.ofNat 0x307]
  else [smallForm character]

def lowercaseFrom (before : List Char) : List Char → List Char
  | [] => []
  | character :: after =>
    smallFormWithin before character after ++ lowercaseFrom (character :: before) after

def lowercase (text : String) : String :=
  String.ofList (lowercaseFrom [] text.toList)

end SignalReplay.Text
