import SignalReplay.Proofs.Json.Pretty
import SignalReplay.Proofs.Json.Token

/-!
JSON texts that are cut off. A whole tree takes no further token and an object ends with its brace,
so what is left of the text of an object when its end is missing is no text of anything.
-/

namespace SignalReplay.Json

open Awaiting

/-! ## The machine at its end -/

theorem foldlM_nothing {root : Node} {tokens : List Token} {last : Awaiting}
    (built : tokens.foldlM step? (.nothing root) = some last) : tokens = [] := by
  cases tokens with
  | nil => rfl
  | cons token rest => cases token <;> cases built

/-- Only at its beginning does the machine await a value with nothing around it. -/
theorem step?_ne_valueNext_nil (state : Awaiting) (token : Token) :
    step? state token ≠ some (.valueNext []) := by
  have whole (node : Node) (frames : List Frame) : complete node frames ≠ .valueNext [] := by
    cases frames with
    | nil => exact nofun
    | cons frame frames => cases frame <;> exact nofun
  have begun (frames : List Frame) : begin? frames token ≠ some (.valueNext []) := by
    cases token <;> simp [begin?, whole]
  cases state <;> cases token <;> simp [step?, begun, whole]

theorem eq_valueNext_nil_of_number {state : Awaiting} {numeral : Numeral} {root : Node}
    (stepped : step? state (.number numeral) = some (.nothing root)) : state = .valueNext [] := by
  cases state with
  | valueNext frames =>
      cases frames with
      | nil => rfl
      | cons frame frames => cases frame <;> cases stepped
  | elementOrEnd | memberOrEnd | nameNext | colonNext | afterElement | afterMember | nothing =>
      cases stepped

theorem eq_singleton_of_ends_number {tokens : List Token} {numeral : Numeral} {root : Node}
    (built : tokens.foldlM step? (.valueNext []) = some (.nothing root))
    (last : tokens.getLast? = some (.number numeral)) : tokens = [.number numeral] := by
  rcases List.getLast?_eq_some_iff.mp last with ⟨front, rfl⟩
  rw [List.foldlM_append] at built
  rcases Option.bind_eq_some_iff.mp built with ⟨state, before, ended⟩
  rw [List.foldlM_cons] at ended
  rcases Option.bind_eq_some_iff.mp ended with ⟨final, stepped, equal⟩
  cases equal
  have beginning := eq_valueNext_nil_of_number stepped
  subst beginning
  rcases List.eq_nil_or_concat front with rfl | ⟨earlier, token, rfl⟩
  · rfl
  · rw [List.concat_eq_append, List.foldlM_append] at before
    rcases Option.bind_eq_some_iff.mp before with ⟨previous, -, again⟩
    rw [List.foldlM_cons] at again
    rcases Option.bind_eq_some_iff.mp again with ⟨_, stepped, equal⟩
    cases equal
    exact absurd stepped (step?_ne_valueNext_nil previous token)

/-! ## Texts of objects -/

theorem isSpace_of_no_tokens {text : List Char} (found : Token.ofText text = some []) :
    ∀ character ∈ text, Token.isSpace character = true := by
  fun_induction Token.ofText text with
  | case1 => exact List.forall_mem_nil _
  | case2 first more space induction => exact List.forall_mem_cons.mpr ⟨space, induction found⟩
  | case3 => cases found
  | case4 first more visible token after scanned induction =>
      rcases Option.map_eq_some_iff.mp found with ⟨later, -, equal⟩
      cases equal

/-- A text between the braces of an object, without a part at its end. -/
structure IsCutObject (part whole : String) : Prop where
  braced : ∃ middle, whole.toList = '\x7b' :: (middle ++ ['\x7d'])
  isPrefix : part.toList <+: whole.toList
  proper : part ≠ whole

theorem Node.exists_tokens {text : String} {node : Node} (read : ofText? text = some node) :
    ∃ tokens, Token.ofText text.toList = some tokens ∧
      tokens.foldlM step? (.valueNext []) = some (.nothing node) := by
  rcases Option.bind_eq_some_iff.mp read with ⟨tokens, scanned, built⟩
  rcases Option.bind_eq_some_iff.mp built with ⟨state, folded, ended⟩
  cases state with
  | nothing root =>
      cases ended
      exact ⟨tokens, scanned, folded⟩
  | valueNext | elementOrEnd | memberOrEnd | nameNext | colonNext | afterElement | afterMember =>
      cases ended

theorem getLast?_ne_number {text : List Char} {tokens : List Token} {root : Node}
    (opened : text.head? = some '\x7b') (scanned : Token.ofText text = some tokens)
    (built : tokens.foldlM step? (.valueNext []) = some (.nothing root)) (numeral : Numeral) :
    tokens.getLast? ≠ some (.number numeral) := by
  intro last
  rw [eq_singleton_of_ends_number built last] at scanned
  rcases List.head?_eq_some_iff.mp opened with ⟨more, rfl⟩
  rw [scans_mark '\x7b' .openObject rfl more] at scanned
  rcases Option.map_eq_some_iff.mp scanned with ⟨later, -, equal⟩
  cases equal

theorem Node.ofText?_eq_none_of_isCutObject {part whole : String} {node : Node}
    (cut : IsCutObject part whole) (read : ofText? whole = some node) : ofText? part = none := by
  cases partRead : ofText? part with
  | none => rfl
  | some other =>
      exfalso
      rcases exists_tokens partRead with ⟨tokens, scanned, built⟩
      rcases exists_tokens read with ⟨all, allScanned, allBuilt⟩
      rcases cut.braced with ⟨middle, text⟩
      rcases cut.isPrefix with ⟨rest, joined⟩
      have restNotEmpty : rest ≠ [] := by
        rintro rfl
        rw [List.append_nil] at joined
        exact cut.proper (String.toList_injective joined)
      have partNotEmpty : part.toList ≠ [] := by
        intro empty
        rw [empty, Token.ofText] at scanned
        cases scanned
        cases built
      have opened : part.toList.head? = some '\x7b' := by
        rw [← List.head?_append_of_ne_nil _ partNotEmpty, joined, text, List.head?_cons]
      -- The tree is whole behind the part, so the rest of the text holds no token.
      have goesOn := Token.scans_append scanned (getLast?_ne_number opened scanned built) rest
      rw [Scans, joined, allScanned] at goesOn
      rcases Option.map_eq_some_iff.mp goesOn.symm with ⟨later, laterScanned, rfl⟩
      rw [List.foldlM_append, built] at allBuilt
      rw [foldlM_nothing allBuilt] at laterScanned
      have closed : rest.getLast? = some '\x7d' := by
        rw [← List.getLast?_append_of_ne_nil _ restNotEmpty, joined, text, ← List.cons_append,
          List.getLast?_concat]
      exact absurd (isSpace_of_no_tokens laterScanned _ (List.mem_of_getLast? closed)) (by decide)

namespace Value

variable (members : List (String × Value)) {part : String}

theorem isCutObject_compact (isPrefix : part.toList <+: (object members).compact.toList)
    (proper : part ≠ (object members).compact) : IsCutObject part (object members).compact where
  braced := ⟨_, toList_compact_object members⟩
  isPrefix := isPrefix
  proper := proper

theorem exists_toList_onLines (depth : Nat) (opening closing : String) (parts : List String) :
    ∃ middle, (onLines depth opening closing parts).toList =
      opening.toList ++ (middle ++ closing.toList) := by
  unfold onLines
  split
  · exact ⟨[], String.toList_append⟩
  · simp only [String.toList_append, List.append_assoc]
    simp only [← List.append_assoc _ _ closing.toList]
    exact ⟨_, rfl⟩

theorem isCutObject_pretty (isPrefix : part.toList <+: (object members).pretty.toList)
    (proper : part ≠ (object members).pretty) : IsCutObject part (object members).pretty where
  braced := by
    rw [pretty, prettyAt]
    exact exists_toList_onLines 0 "\x7b" "\x7d" (prettyMembers 1 members)
  isPrefix := isPrefix
  proper := proper

end Value

end SignalReplay.Json
