import Mathlib.Logic.Relation
import SignalReplay.Proofs.Text.Blank
import SignalReplay.Proofs.Text.Lines

/-!
Layouts of one sequence of lines. Ending lines by a carriage return and a line feed instead of a
line feed gives the same lines; blank lines may be put in or left out, and the line feed at the end
as well, without a change to the lines that are not blank.
-/

namespace SignalReplay.Text

variable {byte : UInt8} {bytes other before after line blank : List UInt8} {text : String}

/-! ## Line ends -/

def withReturns (bytes : List UInt8) : List UInt8 :=
  bytes.flatMap fun byte => if byte == lineFeed then [carriageReturn, lineFeed] else [byte]

example : withReturns [0x61, 0xA, 0xA, 0x62] = [0x61, 0xD, 0xA, 0xD, 0xA, 0x62] := by decide

@[simp]
theorem lines_feed (rest : List UInt8) : lines (lineFeed :: rest) = [] :: lines rest := rfl

@[simp]
theorem lines_return_feed (rest : List UInt8) :
    lines (carriageReturn :: lineFeed :: rest) = [] :: lines rest := rfl

theorem dropReturn_cons (noReturn : byte ≠ carriageReturn) (line : List UInt8) :
    dropReturn (byte :: line) = byte :: dropReturn line := by
  cases line with
  | nil => exact dropReturn_eq fun ends => noReturn (Option.some.inj ends)
  | cons next line => rw [dropReturn]

theorem lines_byte (noFeed : byte ≠ lineFeed) (noReturn : byte ≠ carriageReturn)
    (rest : List UInt8) :
    lines (byte :: rest) = (byte :: (lines rest).headD []) :: (lines rest).tail := by
  unfold lines
  rw [splitLines, if_neg (by simpa using noFeed)]
  cases splitLines rest with
  | nil => exact congrArg (fun line => [line]) (dropReturn_cons noReturn [])
  | cons line later => exact congrArg (· :: _) (dropReturn_cons noReturn line)

theorem lines_withReturns (plain : carriageReturn ∉ bytes) :
    lines (withReturns bytes) = lines bytes := by
  induction bytes with
  | nil => rfl
  | cons byte rest induction =>
      have shorter := induction fun member => plain (List.mem_cons_of_mem _ member)
      by_cases feed : byte = lineFeed
      · calc lines (withReturns (byte :: rest))
            = lines (carriageReturn :: lineFeed :: withReturns rest) := by rw [feed]; rfl
          _ = [] :: lines rest := by rw [lines_return_feed, shorter]
          _ = lines (byte :: rest) := by rw [feed, lines_feed]
      · have noReturn : byte ≠ carriageReturn := fun same => plain (same ▸ List.mem_cons_self)
        have kept : withReturns (byte :: rest) = byte :: withReturns rest := by
          rw [withReturns, List.flatMap_cons, if_neg (by simpa using feed)]
          rfl
        rw [kept, lines_byte feed noReturn, lines_byte feed noReturn, shorter]

/-! ## Beginnings of lines -/

def BeginsLine (before : List UInt8) : Prop :=
  before = [] ∨ before.getLast? = some lineFeed

theorem exists_lines_of_beginsLine (begins : BeginsLine before) :
    ∃ pieces : List (List UInt8), (∀ piece ∈ pieces, lineFeed ∉ piece) ∧
      before = pieces.flatMap (· ++ [lineFeed]) := by
  have cut := isCut_splitLines before
  rcases cut.joined with ended | ⟨earlier, last, pieces, notEmpty, unended⟩
  · exact ⟨_, cut.plain, ended⟩
  · have plain : lineFeed ∉ last := cut.plain last (pieces ▸ List.mem_concat_self)
    rcases begins with rfl | feed
    · exact absurd (List.append_eq_nil_iff.mp unended.symm).2 notEmpty
    · rw [unended, List.getLast?_append_of_ne_nil _ notEmpty] at feed
      exact absurd (List.mem_of_getLast? feed) plain

theorem splitLines_append (begins : BeginsLine before) (after : List UInt8) :
    splitLines (before ++ after) = splitLines before ++ splitLines after := by
  rcases exists_lines_of_beginsLine begins with ⟨pieces, plain, rfl⟩
  rw [splitLines_flatMap_append plain, splitLines_flatMap plain]

/-- A line feed at the end is an empty line of its own where a line begins, and otherwise ends the
last line. -/
theorem splitLines_concat_feed (bytes : List UInt8) :
    splitLines (bytes ++ [lineFeed]) = splitLines bytes ++ [[]] ∨
      splitLines (bytes ++ [lineFeed]) = splitLines bytes := by
  have cut := isCut_splitLines bytes
  rcases cut.joined with ended | ⟨before, last, pieces, notEmpty, unended⟩
  · left
    have split := splitLines_flatMap_append cut.plain [lineFeed]
    rwa [← ended] at split
  · right
    have joined : bytes ++ [lineFeed] = (splitLines bytes).flatMap (· ++ [lineFeed]) := by
      rw [pieces, List.flatMap_append, List.flatMap_singleton, ← List.append_assoc, ← unended]
    rw [joined, splitLines_flatMap cut.plain]

/-! ## Blank lines -/

def isBlankLine (line : List UInt8) : Bool :=
  match Utf8.decode line with
  | .ok text => isBlankText text
  | .error _ => false

@[simp]
theorem isBlankLine_encode (text : String) : isBlankLine (Utf8.encode text) = isBlankText text := by
  unfold isBlankLine
  rw [Utf8.decode_encode]

theorem exists_of_isBlankLine (isBlank : isBlankLine line = true) :
    ∃ text, line = Utf8.encode text ∧ isBlankText text = true := by
  unfold isBlankLine at isBlank
  split at isBlank
  · next text decoded => exact ⟨text, Utf8.decode_eq_ok_iff.mp decoded, isBlank⟩
  · cases isBlank

theorem isBlankLine_dropReturn (isBlank : isBlankLine line = true) :
    isBlankLine (dropReturn line) = true := by
  rw [dropReturn_eq_ite]
  split
  · next ends =>
      rcases exists_of_isBlankLine isBlank with ⟨text, spelled, blank⟩
      have parts : line.dropLast ++ [carriageReturn] = line := List.dropLast_append_getLast? _ ends
      have isText : IsText (line.dropLast ++ [carriageReturn]) := by
        rw [parts]
        exact ⟨text, spelled⟩
      rcases (isText_concat_iff (by decide)).mp isText with ⟨shorter, dropped⟩
      have longer : Utf8.encode text = Utf8.encode (shorter ++ "\r") := by
        rw [← spelled, ← parts, dropped, Utf8.encode_eq_flatMap, Utf8.encode_eq_flatMap,
          String.toList_append, List.flatMap_append]
        rfl
      rw [Utf8.encode_injective longer, isBlankText, String.toList_append, List.all_append,
        Bool.and_eq_true] at blank
      rw [dropped, isBlankLine_encode]
      exact blank.1
  · exact isBlank

def visibleLines (bytes : List UInt8) : List (List UInt8) :=
  (lines bytes).filter fun line => !isBlankLine line

/-- One change to the layout: a blank line is put in, with a line feed or as an unended last line,
or a line feed is put at the end. -/
inductive Respaced : List UInt8 → List UInt8 → Prop
  | line {before blank after : List UInt8} (begins : BeginsLine before)
      (isBlank : isBlankLine blank = true) (plain : lineFeed ∉ blank) :
      Respaced (before ++ after) (before ++ (blank ++ lineFeed :: after))
  | lastLine {before blank : List UInt8} (begins : BeginsLine before)
      (isBlank : isBlankLine blank = true) (plain : lineFeed ∉ blank) :
      Respaced before (before ++ blank)
  | feed {bytes : List UInt8} : Respaced bytes (bytes ++ [lineFeed])

theorem filter_dropReturn_cons (isBlank : isBlankLine line = true) (later : List (List UInt8)) :
    ((line :: later).map dropReturn).filter (fun line => !isBlankLine line) =
      (later.map dropReturn).filter fun line => !isBlankLine line :=
  List.filter_cons_of_neg (by rw [isBlankLine_dropReturn isBlank]; decide)

theorem visibleLines_of_respaced (respaced : Respaced bytes other) :
    visibleLines bytes = visibleLines other := by
  unfold visibleLines lines
  cases respaced with
  | @line before blank after begins isBlank plain =>
      rw [splitLines_append begins, splitLines_append begins, splitLines_line after plain,
        List.map_append, List.map_append, List.filter_append, List.filter_append,
        filter_dropReturn_cons isBlank]
  | @lastLine before blank begins isBlank plain =>
      rw [splitLines_append begins, List.map_append, List.filter_append]
      by_cases empty : blank = []
      · rw [empty]
        exact (List.append_nil _).symm
      · rw [splitLines_plain plain empty, filter_dropReturn_cons isBlank]
        exact (List.append_nil _).symm
  | feed =>
      rcases splitLines_concat_feed bytes with added | same
      · rw [added, List.map_append, List.filter_append, filter_dropReturn_cons rfl]
        exact (List.append_nil _).symm
      · rw [same]

theorem visibleLines_of_eqvGen (respaced : Relation.EqvGen Respaced bytes other) :
    visibleLines bytes = visibleLines other := by
  induction respaced with
  | rel _ _ step => exact visibleLines_of_respaced step
  | refl _ => rfl
  | symm _ _ _ induction => exact induction.symm
  | trans _ _ _ _ _ first second => exact first.trans second

end SignalReplay.Text
