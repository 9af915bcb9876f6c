import SignalReplay.Proofs.Json.Text

/-!
Values written over several lines. The breaks between the parts are passed over, so that the pretty
form of a value is scanned as the same tokens as the compact one.
-/

namespace SignalReplay.Json

/-! ## Spaces -/

theorem scans_spaces {spaces : List Char} (blank : ∀ character ∈ spaces, Token.isSpace character)
    (rest : List Char) : Scans (spaces ++ rest) [] rest := by
  induction spaces with
  | nil => exact scans_nil rest
  | cons space spaces induction =>
      rcases List.forall_mem_cons.mp blank with ⟨first, later⟩
      have skipped : Token.ofText (space :: (spaces ++ rest)) = Token.ofText (spaces ++ rest) := by
        rw [Token.ofText, if_pos first]
      rw [Scans, List.cons_append, skipped]
      exact induction later

def lineBreak (depth : Nat) : List Char :=
  '\n' :: List.replicate (2 * depth) ' '

theorem scans_lineBreak (depth : Nat) (rest : List Char) :
    Scans (lineBreak depth ++ rest) [] rest := by
  apply scans_spaces
  intro character member
  rcases List.mem_cons.mp member with rfl | space
  · rfl
  · rw [List.eq_of_mem_replicate space]
    rfl

theorem endsNumber_lineBreak (depth : Nat) (rest : List Char) :
    EndsNumber (lineBreak depth ++ rest) :=
  endsNumber_cons _ (by decide)

theorem endsNumber_laterLines (depth : Nat) (parts : List String) {rest : List Char}
    (ends : EndsNumber rest) :
    EndsNumber ((parts.flatMap fun part => ',' :: (lineBreak depth ++ part.toList)) ++ rest) := by
  cases parts with
  | nil => exact ends
  | cons part parts => exact endsNumber_cons _ (by decide)

namespace Value

theorem toList_onLines_cons (depth : Nat) (opening closing first : String) (rest : List String) :
    (onLines depth opening closing (first :: rest)).toList =
      opening.toList ++ (lineBreak (depth + 1) ++ (first.toList ++
        ((rest.flatMap fun part => ',' :: (lineBreak (depth + 1) ++ part.toList)) ++
          (lineBreak depth ++ closing.toList)))) := by
  rw [onLines, List.isEmpty_cons, if_neg Bool.false_ne_true]
  simp only [String.toList_append, Text.toList_intercalate_cons]
  simp [indentation, lineBreak]

theorem toList_onLines_nil (depth : Nat) (opening closing : String) :
    (onLines depth opening closing []).toList = opening.toList ++ closing.toList :=
  String.toList_append

/-! ## Tokens of values on lines -/

mutual

/-- A value on lines is scanned as its tokens, whatever follows that cannot belong to a number. -/
theorem scans_prettyAt : ∀ (value : Value) (depth : Nat) (rest : List Char), EndsNumber rest →
    Scans ((value.prettyAt depth).toList ++ rest) value.tokens rest
  | .null, depth, rest, ends => scans_compact .null rest ends
  | .boolean value, depth, rest, ends => scans_compact (.boolean value) rest ends
  | .number value, depth, rest, ends => scans_compact (.number value) rest ends
  | .string value, depth, rest, ends => scans_compact (.string value) rest ends
  | .array [], depth, rest, _ => by
      rw [prettyAt, prettyElements, toList_onLines_nil, tokens]
      exact (scans_mark '[' .openArray rfl _).trans (scans_mark ']' .closeArray rfl rest)
  | .array (element :: elements), depth, rest, _ => by
      have closing := endsNumber_lineBreak depth (']' :: rest)
      have first := scans_prettyAt element (depth + 1) _
        (endsNumber_laterLines (depth + 1) (prettyElements (depth + 1) elements) closing)
      have later := scans_prettyElements elements (depth + 1) _ closing
      have whole := (scans_mark '[' .openArray rfl _).trans ((scans_lineBreak (depth + 1) _).trans
        (first.trans (later.trans ((scans_lineBreak depth _).trans
          (scans_mark ']' .closeArray rfl rest)))))
      rw [prettyAt, prettyElements, toList_onLines_cons, tokens, elementTokens, separated]
      simp only [List.cons_append, List.append_assoc, List.nil_append] at whole ⊢
      exact whole
  | .object [], depth, rest, _ => by
      rw [prettyAt, prettyMembers, toList_onLines_nil, tokens]
      exact (scans_mark '\x7b' .openObject rfl _).trans
        (scans_mark '\x7d' .closeObject rfl rest)
  | .object ((name, value) :: members), depth, rest, _ => by
      have closing := endsNumber_lineBreak depth ('\x7d' :: rest)
      have first := scans_prettyMember name value (depth + 1) _
        (endsNumber_laterLines (depth + 1) (prettyMembers (depth + 1) members) closing)
      have later := scans_prettyMembers members (depth + 1) _ closing
      have whole := (scans_mark '\x7b' .openObject rfl _).trans
        ((scans_lineBreak (depth + 1) _).trans (first.trans (later.trans
          ((scans_lineBreak depth _).trans (scans_mark '\x7d' .closeObject rfl rest)))))
      rw [prettyAt, prettyMembers, toList_onLines_cons, tokens, memberTokens, separated]
      simp only [List.cons_append, List.append_assoc, List.nil_append] at whole ⊢
      exact whole

theorem scans_prettyMember : ∀ (name : String) (value : Value) (depth : Nat) (rest : List Char),
    EndsNumber rest →
    Scans ((writeString name ++ ": " ++ value.prettyAt depth).toList ++ rest)
      (.string (some name) :: .colon :: value.tokens) rest
  | name, value, depth, rest, ends => by
      have blank : ∀ character ∈ [' '], Token.isSpace character := by simp [Token.isSpace]
      have whole := (scans_string name _).trans ((scans_mark ':' .colon rfl _).trans
        ((scans_spaces blank _).trans (scans_prettyAt value depth rest ends)))
      rw [String.toList_append, String.toList_append]
      simp only [List.cons_append, List.append_assoc, List.nil_append] at whole ⊢
      exact whole

theorem scans_prettyElements : ∀ (elements : List Value) (depth : Nat) (rest : List Char),
    EndsNumber rest →
    Scans (((prettyElements depth elements).flatMap fun part =>
        ',' :: (lineBreak depth ++ part.toList)) ++ rest)
      ((elementTokens elements).flatMap (.comma :: ·)) rest
  | [], _, rest, _ => scans_nil rest
  | element :: elements, depth, rest, ends => by
      have first := scans_prettyAt element depth _
        (endsNumber_laterLines depth (prettyElements depth elements) ends)
      have later := scans_prettyElements elements depth rest ends
      have whole := (scans_mark ',' .comma rfl _).trans ((scans_lineBreak depth _).trans
        (first.trans later))
      rw [prettyElements, elementTokens, List.flatMap_cons, List.flatMap_cons]
      simp only [List.cons_append, List.append_assoc, List.nil_append] at whole ⊢
      exact whole

theorem scans_prettyMembers : ∀ (members : List (String × Value)) (depth : Nat)
    (rest : List Char), EndsNumber rest →
    Scans (((prettyMembers depth members).flatMap fun part =>
        ',' :: (lineBreak depth ++ part.toList)) ++ rest)
      ((memberTokens members).flatMap (.comma :: ·)) rest
  | [], _, rest, _ => scans_nil rest
  | (name, value) :: members, depth, rest, ends => by
      have first := scans_prettyMember name value depth _
        (endsNumber_laterLines depth (prettyMembers depth members) ends)
      have later := scans_prettyMembers members depth rest ends
      have whole := (scans_mark ',' .comma rfl _).trans ((scans_lineBreak depth _).trans
        (first.trans later))
      rw [prettyMembers, memberTokens, List.flatMap_cons, List.flatMap_cons]
      simp only [List.cons_append, List.append_assoc, List.nil_append] at whole ⊢
      exact whole

end

@[simp]
theorem ofText?_pretty (value : Value) : Node.ofText? value.pretty = some value.node := by
  have scanned := scans_prettyAt value 0 [] endsNumber_nil
  rw [List.append_nil] at scanned
  exact ofText?_of_scans scanned

end Value

end SignalReplay.Json
