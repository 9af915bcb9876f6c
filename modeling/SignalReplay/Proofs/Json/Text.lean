import SignalReplay.Proofs.Json.Number
import SignalReplay.Proofs.Json.String
import SignalReplay.Proofs.Text.Lines

/-!
Written values read back. The compact form of a value is scanned as the tokens of the value, and
the machine builds the value's tree from them. In the tree a number that is not finite is null, as
it is in the text; every other part of the value is found again.
-/

namespace SignalReplay.Json

open Decimal

/-! ## Tokens -/

def separated : List (List Token) → List Token
  | [] => []
  | first :: rest => first ++ rest.flatMap (.comma :: ·)

namespace Value

mutual

def tokens : Value → List Token
  | .null => [.null]
  | .boolean value => [.boolean value]
  | .number value => [value.token]
  | .string value => [.string (some value)]
  | .array elements => .openArray :: (separated (elementTokens elements) ++ [.closeArray])
  | .object members => .openObject :: (separated (memberTokens members) ++ [.closeObject])

def elementTokens : List Value → List (List Token)
  | [] => []
  | element :: rest => element.tokens :: elementTokens rest

def memberTokens : List (String × Value) → List (List Token)
  | [] => []
  | (name, value) :: rest =>
    (.string (some name) :: .colon :: value.tokens) :: memberTokens rest

end

end Value

/-- The text is scanned as the tokens, and scanning goes on with the rest. -/
def Scans (text : List Char) (tokens : List Token) (rest : List Char) : Prop :=
  Token.ofText text = (Token.ofText rest).map (tokens ++ ·)

theorem Scans.trans {text middle rest : List Char} {first second : List Token}
    (left : Scans text first middle) (right : Scans middle second rest) :
    Scans text (first ++ second) rest := by
  rw [Scans] at left right ⊢
  rw [left, right, Option.map_map]
  congr 1
  funext tokens
  exact (List.append_assoc first second tokens).symm

theorem scans_nil (text : List Char) : Scans text [] text :=
  Option.map_id'.symm

theorem scans_token {text rest : List Char} {token : Token}
    (found : Token.scanToken text = some (token, rest)) : Scans text [token] rest := by
  rw [Scans]
  cases text with
  | nil => cases found
  | cons first more =>
      have visible : Token.isSpace first = false := by
        rw [← Bool.not_eq_true]
        intro space
        simp only [Token.isSpace, Bool.or_eq_true, beq_iff_eq] at space
        rcases space with ((equal | equal) | equal) | equal <;> rw [equal] at found <;> cases found
      rw [Token.ofText, visible, if_neg Bool.false_ne_true]
      split
      · next missing =>
        rw [missing] at found
        cases found
      · next token after present =>
        rw [present] at found
        cases found
        rfl

theorem scans_mark (mark : Char) (token : Token) (known : Token.ofMark? mark = some token)
    (rest : List Char) : Scans (mark :: rest) [token] rest := by
  apply scans_token
  rw [Token.scanToken, known]

theorem scans_string (text : String) (rest : List Char) :
    Scans ((writeString text).toList ++ rest) [.string (some text)] rest :=
  scans_token (Token.scanToken_writeString text rest)

/-! ## Tokens of written values -/

theorem endsNumber_cons {first : Char} (rest : List Char)
    (other : isDigit first = false ∧ first ≠ '.' ∧ first ≠ 'e' ∧ first ≠ 'E') :
    EndsNumber (first :: rest) := by
  intro character equal
  rw [← Option.some.inj equal]
  exact other

theorem endsNumber_later (parts : List String) {rest : List Char} (ends : EndsNumber rest) :
    EndsNumber ((parts.flatMap fun part => ',' :: part.toList) ++ rest) := by
  cases parts with
  | nil => exact ends
  | cons part parts =>
      rw [List.flatMap_cons, List.cons_append, List.cons_append]
      exact endsNumber_cons _ (by decide)

theorem toList_commas (first : String) (rest : List String) :
    (",".intercalate (first :: rest)).toList =
      first.toList ++ rest.flatMap fun part => ',' :: part.toList :=
  Text.toList_intercalate_cons "," first rest

namespace Value

theorem toList_compact_array (elements : List Value) :
    (Value.array elements).compact.toList =
      '[' :: ((",".intercalate (compactElements elements)).toList ++ [']']) := by
  rw [compact, String.toList_append, String.toList_append, List.append_assoc]
  rfl

theorem toList_compact_object (members : List (String × Value)) :
    (Value.object members).compact.toList =
      '\x7b' :: ((",".intercalate (compactMembers members)).toList ++ ['\x7d']) := by
  rw [compact, String.toList_append, String.toList_append, List.append_assoc]
  rfl

mutual

/-- A written value is scanned as its tokens, whatever follows that cannot belong to a number. -/
theorem scans_compact : ∀ (value : Value) (rest : List Char), EndsNumber rest →
    Scans (value.compact.toList ++ rest) value.tokens rest
  | .null, rest, _ => by
      rw [compact, tokens]
      exact scans_token rfl
  | .boolean true, rest, _ => by
      rw [compact, tokens]
      exact scans_token rfl
  | .boolean false, rest, _ => by
      rw [compact, tokens]
      exact scans_token rfl
  | .number value, rest, ends => by
      rw [compact, tokens]
      exact scans_token (scanToken_number value ends)
  | .string value, rest, _ => by
      rw [compact, tokens]
      exact scans_string value rest
  | .array [], rest, _ => by
      rw [toList_compact_array, tokens]
      exact (scans_mark '[' .openArray rfl _).trans (scans_mark ']' .closeArray rfl rest)
  | .array (element :: elements), rest, _ => by
      have closing : EndsNumber (']' :: rest) := endsNumber_cons rest (by decide)
      have first := scans_compact element _ (endsNumber_later (compactElements elements) closing)
      have later := scans_compactElements elements (']' :: rest) closing
      have whole := (scans_mark '[' .openArray rfl _).trans (first.trans (later.trans
        (scans_mark ']' .closeArray rfl rest)))
      rw [toList_compact_array, compactElements, toList_commas, tokens, elementTokens, separated,
        List.append_assoc]
      simp only [List.cons_append, List.append_assoc, List.nil_append] at whole ⊢
      exact whole
  | .object [], rest, _ => by
      rw [toList_compact_object, tokens]
      exact (scans_mark '\x7b' .openObject rfl _).trans
        (scans_mark '\x7d' .closeObject rfl rest)
  | .object ((name, value) :: members), rest, _ => by
      have closing : EndsNumber ('\x7d' :: rest) := endsNumber_cons rest (by decide)
      have first := scans_compact value _ (endsNumber_later (compactMembers members) closing)
      have later := scans_compactMembers members ('\x7d' :: rest) closing
      have whole := (scans_mark '\x7b' .openObject rfl _).trans ((scans_string name _).trans
        ((scans_mark ':' .colon rfl _).trans (first.trans (later.trans
          (scans_mark '\x7d' .closeObject rfl rest)))))
      rw [toList_compact_object, compactMembers, toList_commas, tokens, memberTokens, separated,
        String.toList_append, String.toList_append]
      simp only [List.cons_append, List.append_assoc, List.nil_append] at whole ⊢
      exact whole

theorem scans_compactElements : ∀ (elements : List Value) (rest : List Char), EndsNumber rest →
    Scans (((compactElements elements).flatMap fun part => ',' :: part.toList) ++ rest)
      ((elementTokens elements).flatMap (.comma :: ·)) rest
  | [], rest, _ => scans_nil rest
  | element :: elements, rest, ends => by
      have first := scans_compact element _ (endsNumber_later (compactElements elements) ends)
      have later := scans_compactElements elements rest ends
      have whole := (scans_mark ',' .comma rfl _).trans (first.trans later)
      rw [compactElements, elementTokens, List.flatMap_cons, List.flatMap_cons]
      simp only [List.cons_append, List.append_assoc, List.nil_append] at whole ⊢
      exact whole

theorem scans_compactMembers : ∀ (members : List (String × Value)) (rest : List Char),
    EndsNumber rest →
    Scans (((compactMembers members).flatMap fun part => ',' :: part.toList) ++ rest)
      ((memberTokens members).flatMap (.comma :: ·)) rest
  | [], rest, _ => scans_nil rest
  | (name, value) :: members, rest, ends => by
      have first := scans_compact value _ (endsNumber_later (compactMembers members) ends)
      have later := scans_compactMembers members rest ends
      have whole := (scans_mark ',' .comma rfl _).trans ((scans_string name _).trans
        ((scans_mark ':' .colon rfl _).trans (first.trans later)))
      rw [compactMembers, memberTokens, List.flatMap_cons, List.flatMap_cons, String.toList_append,
        String.toList_append]
      simp only [List.cons_append, List.append_assoc, List.nil_append] at whole ⊢
      exact whole

end

/-! ## Trees of written values -/

mutual

def node : Value → Node
  | .null => .null
  | .boolean value => .boolean value
  | .number value => value.node
  | .string value => .string (some value)
  | .array elements => .array (elementNodes elements)
  | .object members => .object (memberNodes members)

def elementNodes : List Value → List Node
  | [] => []
  | element :: rest => element.node :: elementNodes rest

def memberNodes : List (String × Value) → List (Option String × Node)
  | [] => []
  | (name, value) :: rest => (some name, value.node) :: memberNodes rest

end

open Awaiting

@[simp]
theorem begin?_number (number : Number) (frames : List Frame) :
    begin? frames number.token = some (complete number.node frames) := by
  rw [Number.token, Number.node]
  cases number.numeral? <;> rfl

theorem tokens_front (value : Value) :
    ∃ token more, value.tokens = token :: more ∧ token ≠ .closeArray := by
  cases value with
  | number number =>
      refine ⟨number.token, [], by rw [tokens], ?_⟩
      rw [Number.token]
      cases number.numeral? with
      | none =>
          intro equal
          cases equal
      | some numeral =>
          intro equal
          cases equal
  | null => exact ⟨_, _, by rw [tokens], by decide⟩
  | boolean truth =>
      refine ⟨_, _, by rw [tokens], ?_⟩
      intro equal
      cases equal
  | string text =>
      refine ⟨_, _, by rw [tokens], ?_⟩
      intro equal
      cases equal
  | array elements => exact ⟨_, _, by rw [tokens], by decide⟩
  | object members => exact ⟨_, _, by rw [tokens], by decide⟩

theorem foldlM_elementOrEnd (value : Value) (more : List Token) (frames : List Frame) :
    (value.tokens ++ more).foldlM step? (.elementOrEnd frames) =
      (value.tokens ++ more).foldlM step? (.valueNext (.array [] :: frames)) := by
  rcases tokens_front value with ⟨token, rest, equal, notEnd⟩
  have step : step? (.elementOrEnd frames) token =
      step? (.valueNext (.array [] :: frames)) token := by
    cases token <;> first | rfl | exact absurd rfl notEnd
  rw [equal, List.cons_append, List.foldlM_cons, List.foldlM_cons, step]

mutual

/-- The machine builds the tree of a value from its tokens. -/
theorem foldlM_tokens : ∀ (value : Value) (more : List Token) (frames : List Frame),
    (value.tokens ++ more).foldlM step? (.valueNext frames) =
      more.foldlM step? (complete value.node frames)
  | .null, more, frames => by
      rw [tokens, node]
      rfl
  | .boolean truth, more, frames => by
      rw [tokens, node]
      rfl
  | .number value, more, frames => by
      have begun : step? (.valueNext frames) value.token = some (complete value.node frames) :=
        begin?_number value frames
      rw [tokens, node, List.singleton_append, List.foldlM_cons, begun]
      rfl
  | .string text, more, frames => by
      rw [tokens, node]
      rfl
  | .array [], more, frames => by
      rw [tokens, node, elementNodes]
      rfl
  | .array (element :: elements), more, frames => by
      -- The first element is read where the array may end, the others each behind a comma, and
      -- the mark at the end turns them all around.
      have first := foldlM_tokens element
        ((elementTokens elements).flatMap (.comma :: ·) ++ (.closeArray :: more))
        (.array [] :: frames)
      have later := foldlM_elementTokens elements [element.node] (.closeArray :: more) frames
      rw [tokens, node, elementTokens, elementNodes, separated]
      simp only [List.cons_append, List.append_assoc, List.nil_append]
      calc _ = (element.tokens ++ ((elementTokens elements).flatMap (.comma :: ·) ++
              (.closeArray :: more))).foldlM step? (.elementOrEnd frames) := rfl
        _ = (.closeArray :: more).foldlM step?
              (.afterElement ((elementNodes elements).reverse ++ [element.node]) frames) := by
          rw [foldlM_elementOrEnd, first]
          exact later
        _ = more.foldlM step? (complete (.array
              ((elementNodes elements).reverse ++ [element.node]).reverse) frames) := rfl
        _ = _ := by rw [List.reverse_append, List.reverse_reverse]; rfl
  | .object [], more, frames => by
      rw [tokens, node, memberNodes]
      rfl
  | .object ((name, value) :: members), more, frames => by
      have first := foldlM_tokens value
        ((memberTokens members).flatMap (.comma :: ·) ++ (.closeObject :: more))
        (.object [] (some name) :: frames)
      have later := foldlM_memberTokens members [(some name, value.node)] (.closeObject :: more)
        frames
      rw [tokens, node, memberTokens, memberNodes, separated]
      simp only [List.cons_append, List.append_assoc, List.nil_append]
      calc _ = (value.tokens ++ ((memberTokens members).flatMap (.comma :: ·) ++
              (.closeObject :: more))).foldlM step?
                (.valueNext (.object [] (some name) :: frames)) := rfl
        _ = (.closeObject :: more).foldlM step?
              (.afterMember ((memberNodes members).reverse ++ [(some name, value.node)]) frames) := by
          rw [first]
          exact later
        _ = more.foldlM step? (complete (.object
              ((memberNodes members).reverse ++ [(some name, value.node)]).reverse) frames) := rfl
        _ = _ := by rw [List.reverse_append, List.reverse_reverse]; rfl

theorem foldlM_elementTokens : ∀ (elements : List Value) (before : List Node)
    (more : List Token) (frames : List Frame),
    ((elementTokens elements).flatMap (.comma :: ·) ++ more).foldlM step?
        (.afterElement before frames) =
      more.foldlM step? (.afterElement ((elementNodes elements).reverse ++ before) frames)
  | [], before, more, frames => by
      rw [elementTokens, elementNodes]
      rfl
  | element :: elements, before, more, frames => by
      have first := foldlM_tokens element ((elementTokens elements).flatMap (.comma :: ·) ++ more)
        (.array before :: frames)
      have later := foldlM_elementTokens elements (element.node :: before) more frames
      rw [elementTokens, elementNodes, List.flatMap_cons, List.reverse_cons]
      simp only [List.cons_append, List.append_assoc, List.nil_append]
      exact first.trans later

theorem foldlM_memberTokens : ∀ (members : List (String × Value))
    (before : List (Option String × Node)) (more : List Token) (frames : List Frame),
    ((memberTokens members).flatMap (.comma :: ·) ++ more).foldlM step?
        (.afterMember before frames) =
      more.foldlM step? (.afterMember ((memberNodes members).reverse ++ before) frames)
  | [], before, more, frames => by
      rw [memberTokens, memberNodes]
      rfl
  | (name, value) :: members, before, more, frames => by
      have first := foldlM_tokens value ((memberTokens members).flatMap (.comma :: ·) ++ more)
        (.object before (some name) :: frames)
      have later := foldlM_memberTokens members ((some name, value.node) :: before) more frames
      rw [memberTokens, memberNodes, List.flatMap_cons, List.reverse_cons]
      simp only [List.cons_append, List.append_assoc, List.nil_append]
      exact first.trans later

end

theorem ofText?_of_scans {text : String} {value : Value}
    (scanned : Scans text.toList value.tokens []) : Node.ofText? text = some value.node := by
  have built := foldlM_tokens value [] []
  rw [List.append_nil] at built
  have nothing : Token.ofText [] = some [] := by rw [Token.ofText]
  rw [Scans, nothing, Option.map_some, List.append_nil] at scanned
  rw [Node.ofText?, scanned]
  change Node.ofTokens? value.tokens = _
  rw [Node.ofTokens?, built]
  rfl

@[simp]
theorem ofText?_compact (value : Value) : Node.ofText? value.compact = some value.node := by
  have scanned := scans_compact value [] endsNumber_nil
  rw [List.append_nil] at scanned
  exact ofText?_of_scans scanned

end Value

end SignalReplay.Json
