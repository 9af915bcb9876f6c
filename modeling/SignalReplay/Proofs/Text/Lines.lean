import SignalReplay.Text.Lines
import SignalReplay.Proofs.Text.Utf8

/-!
Texts put together from parts, and lines taken apart again. There is one way to cut a byte list at
its line feeds, and lines that hold none and do not end with a carriage return are found again as
they were written.
-/

namespace SignalReplay.Text

/-! ## Joined texts -/

theorem toList_intercalate_cons (separator first : String) (rest : List String) :
    (separator.intercalate (first :: rest)).toList =
      first.toList ++ rest.flatMap fun part => separator.toList ++ part.toList := by
  induction rest generalizing first with
  | nil => rw [String.intercalate_singleton, List.flatMap_nil, List.append_nil]
  | cons second rest induction =>
      rw [String.intercalate_cons_cons, String.toList_append, String.toList_append, induction,
        List.flatMap_cons, List.append_assoc, List.append_assoc]

@[simp]
theorem toList_intercalate_empty (parts : List String) :
    ("".intercalate parts).toList = parts.flatMap String.toList := by
  cases parts with
  | nil => rw [String.intercalate_nil, List.flatMap_nil]; rfl
  | cons first rest =>
      rw [toList_intercalate_cons, List.flatMap_cons]
      rfl

/-! ## Lines -/

theorem splitLines_line {line : List UInt8} (rest : List UInt8) (plain : lineFeed ∉ line) :
    splitLines (line ++ lineFeed :: rest) = line :: splitLines rest := by
  induction line with
  | nil => rw [List.nil_append, splitLines, if_pos (beq_self_eq_true _)]
  | cons byte line induction =>
      have other : (byte == lineFeed) = false := by
        apply beq_eq_false_iff_ne.mpr
        intro equal
        exact plain (equal ▸ List.mem_cons_self ..)
      have shorter := induction (fun member => plain (List.mem_cons_of_mem _ member))
      rw [List.cons_append, splitLines, other, if_neg Bool.false_ne_true, shorter]

theorem splitLines_flatMap_append {lines : List (List UInt8)}
    (plain : ∀ line ∈ lines, lineFeed ∉ line) (rest : List UInt8) :
    splitLines (lines.flatMap (· ++ [lineFeed]) ++ rest) = lines ++ splitLines rest := by
  induction lines with
  | nil => rfl
  | cons line lines induction =>
      rw [List.flatMap_cons, List.append_assoc, List.append_assoc, List.singleton_append,
        splitLines_line _ (plain line (List.mem_cons_self ..)),
        induction fun other member => plain other (List.mem_cons_of_mem _ member), List.cons_append]

theorem splitLines_flatMap {lines : List (List UInt8)}
    (plain : ∀ line ∈ lines, lineFeed ∉ line) :
    splitLines (lines.flatMap (· ++ [lineFeed])) = lines := by
  have split := splitLines_flatMap_append plain []
  rwa [List.append_nil, splitLines, List.append_nil] at split

theorem splitLines_plain {line : List UInt8} (plain : lineFeed ∉ line) (notEmpty : line ≠ []) :
    splitLines line = [line] := by
  induction line with
  | nil => exact absurd rfl notEmpty
  | cons byte line induction =>
      have other : (byte == lineFeed) = false := by
        apply beq_eq_false_iff_ne.mpr
        intro equal
        exact plain (equal ▸ List.mem_cons_self ..)
      rw [splitLines, other, if_neg Bool.false_ne_true]
      cases line with
      | nil => rfl
      | cons next line =>
          rw [induction (fun member => plain (List.mem_cons_of_mem _ member))
            (List.cons_ne_nil _ _)]

/-- The pieces of a byte list that is cut at every line feed. A line feed ends each piece, but the
last one may go without if it is not empty. -/
structure IsCut (bytes : List UInt8) (pieces : List (List UInt8)) : Prop where
  plain : ∀ piece ∈ pieces, lineFeed ∉ piece
  joined : bytes = pieces.flatMap (· ++ [lineFeed]) ∨
    ∃ before last, pieces = before ++ [last] ∧ last ≠ [] ∧
      bytes = before.flatMap (· ++ [lineFeed]) ++ last

namespace IsCut

variable {bytes : List UInt8} {pieces : List (List UInt8)}

theorem feed (cut : IsCut bytes pieces) : IsCut (lineFeed :: bytes) ([] :: pieces) where
  plain := List.forall_mem_cons.mpr ⟨List.not_mem_nil, cut.plain⟩
  joined := by
    rcases cut.joined with ended | ⟨before, last, rfl, notEmpty, unended⟩
    · left
      rw [ended]
      rfl
    · right
      refine ⟨[] :: before, last, rfl, notEmpty, ?_⟩
      rw [unended]
      rfl

theorem byte {byte : UInt8} (other : byte ≠ lineFeed) (cut : IsCut bytes pieces) :
    IsCut (byte :: bytes) ((byte :: pieces.headD []) :: pieces.tail) where
  plain := by
    have first : lineFeed ∉ pieces.headD [] := by
      cases pieces with
      | nil => exact List.not_mem_nil
      | cons piece pieces => exact cut.plain piece List.mem_cons_self
    exact List.forall_mem_cons.mpr
      ⟨List.not_mem_cons_of_ne_of_not_mem (Ne.symm other) first,
        fun piece member => cut.plain piece (List.mem_of_mem_tail member)⟩
  joined := by
    rcases cut.joined with ended | ⟨before, last, rfl, notEmpty, unended⟩
    · cases pieces with
      | nil => exact .inr ⟨[], [byte], rfl, List.cons_ne_nil _ _, by rw [ended]; rfl⟩
      | cons piece pieces =>
          left
          rw [ended]
          rfl
    · right
      rw [unended]
      cases before with
      | nil => exact ⟨[], byte :: last, rfl, List.cons_ne_nil _ _, rfl⟩
      | cons piece before => exact ⟨(byte :: piece) :: before, last, rfl, notEmpty, rfl⟩

end IsCut

theorem isCut_splitLines (bytes : List UInt8) : IsCut bytes (splitLines bytes) := by
  induction bytes with
  | nil => exact ⟨List.forall_mem_nil _, .inl rfl⟩
  | cons byte rest induction =>
      rw [splitLines]
      by_cases feed : byte = lineFeed
      · rw [if_pos (beq_iff_eq.mpr feed), feed]
        exact induction.feed
      · rw [if_neg (by simpa using feed)]
        have cut := induction.byte feed
        cases pieces : splitLines rest with
        | nil => simpa [pieces] using cut
        | cons piece later => simpa [pieces] using cut

theorem dropReturn_eq {line : List UInt8} (ends : line.getLast? ≠ some carriageReturn) :
    dropReturn line = line := by
  fun_induction dropReturn line with
  | case1 => rfl
  | case2 byte equal =>
      exact absurd (congrArg some (beq_iff_eq.mp equal)) ends
  | case3 => rfl
  | case4 byte next rest induction =>
      rw [List.getLast?_cons_cons] at ends
      rw [induction ends]

theorem dropReturn_eq_ite (piece : List UInt8) :
    dropReturn piece =
      if piece.getLast? = some carriageReturn then piece.dropLast else piece := by
  by_cases ends : piece.getLast? = some carriageReturn
  · rw [if_pos ends]
    fun_induction dropReturn piece with
    | case1 => rfl
    | case2 => rfl
    | case3 byte other => exact absurd (beq_iff_eq.mpr (Option.some.inj ends)) other
    | case4 byte next rest induction =>
        rw [List.getLast?_cons_cons] at ends
        rw [induction ends, List.dropLast_cons_cons]
  · rw [if_neg ends, dropReturn_eq ends]

theorem lines_flatMap {lines : List (List UInt8)} (plain : ∀ line ∈ lines, lineFeed ∉ line)
    (ends : ∀ line ∈ lines, line.getLast? ≠ some carriageReturn) :
    Text.lines (lines.flatMap (· ++ [lineFeed])) = lines := by
  rw [Text.lines, splitLines_flatMap plain]
  calc lines.map dropReturn
      = lines.map id := List.map_congr_left fun line member => dropReturn_eq (ends line member)
    _ = lines := List.map_id lines

end SignalReplay.Text
