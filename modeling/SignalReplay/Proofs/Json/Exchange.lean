import SignalReplay.Proofs.Json.Members
import SignalReplay.Proofs.Json.Token

/-!
Texts that differ in one value. The value stands behind the name of a member of the outermost object
and is a single token, so both texts are read in the same steps, and what is found under every other
name is the same.
-/

namespace SignalReplay.Json

open Awaiting

/-! ## The machine -/

/-- Members that are the same but for the value of one of them. -/
def Exchanged (name : Option String) (left right : Node)
    (lefts rights : List (Option String × Node)) : Prop :=
  ∃ before after, lefts = before ++ (name, left) :: after ∧
    rights = before ++ (name, right) :: after

inductive FramesExchanged (name : Option String) (left right : Node) :
    List Frame → List Frame → Prop
  | outermost (awaited : Option String) (exchanged : Exchanged name left right lefts rights) :
      FramesExchanged name left right [.object lefts awaited] [.object rights awaited]
  | inside (frame : Frame) (exchanged : FramesExchanged name left right lefts rights) :
      FramesExchanged name left right (frame :: lefts) (frame :: rights)

inductive Alike (name : Option String) (left right : Node) : Awaiting → Awaiting → Prop
  | valueNext (frames : FramesExchanged name left right lefts rights) :
      Alike name left right (.valueNext lefts) (.valueNext rights)
  | elementOrEnd (frames : FramesExchanged name left right lefts rights) :
      Alike name left right (.elementOrEnd lefts) (.elementOrEnd rights)
  | memberOrEnd (frames : FramesExchanged name left right lefts rights) :
      Alike name left right (.memberOrEnd lefts) (.memberOrEnd rights)
  | nameNext (before : List (Option String × Node))
      (frames : FramesExchanged name left right lefts rights) :
      Alike name left right (.nameNext before lefts) (.nameNext before rights)
  | colonNext (before : List (Option String × Node)) (awaited : Option String)
      (frames : FramesExchanged name left right lefts rights) :
      Alike name left right (.colonNext before awaited lefts) (.colonNext before awaited rights)
  | afterElement (before : List Node) (frames : FramesExchanged name left right lefts rights) :
      Alike name left right (.afterElement before lefts) (.afterElement before rights)
  | afterMember (before : List (Option String × Node))
      (frames : FramesExchanged name left right lefts rights) :
      Alike name left right (.afterMember before lefts) (.afterMember before rights)
  | outermostName (exchanged : Exchanged name left right lefts rights) :
      Alike name left right (.nameNext lefts []) (.nameNext rights [])
  | outermostColon (awaited : Option String)
      (exchanged : Exchanged name left right lefts rights) :
      Alike name left right (.colonNext lefts awaited []) (.colonNext rights awaited [])
  | outermostMember (exchanged : Exchanged name left right lefts rights) :
      Alike name left right (.afterMember lefts []) (.afterMember rights [])
  | finished (exchanged : Exchanged name left right lefts rights) :
      Alike name left right (.nothing (.object lefts)) (.nothing (.object rights))

inductive RootsExchanged (name : Option String) (left right : Node) : Node → Node → Prop
  | object (exchanged : Exchanged name left right lefts rights) :
      RootsExchanged name left right (.object lefts) (.object rights)

section Steps

variable {name : Option String} {left right : Node} {lefts rights : List (Option String × Node)}

theorem exchanged_head (after : List (Option String × Node)) :
    Exchanged name left right ((name, left) :: after) ((name, right) :: after) :=
  ⟨[], after, rfl, rfl⟩

theorem Exchanged.cons (exchanged : Exchanged name left right lefts rights)
    (member : Option String × Node) :
    Exchanged name left right (member :: lefts) (member :: rights) := by
  rcases exchanged with ⟨before, after, rfl, rfl⟩
  exact ⟨member :: before, after, rfl, rfl⟩

theorem Exchanged.reverse (exchanged : Exchanged name left right lefts rights) :
    Exchanged name left right lefts.reverse rights.reverse := by
  rcases exchanged with ⟨before, after, rfl, rfl⟩
  exact ⟨after.reverse, before.reverse, by simp, by simp⟩

variable {leftFrames rightFrames : List Frame} {leftState rightState : Awaiting}

theorem alike_complete (frames : FramesExchanged name left right leftFrames rightFrames)
    (node : Node) :
    Alike name left right (complete node leftFrames) (complete node rightFrames) := by
  cases frames with
  | outermost awaited exchanged => exact .outermostMember (exchanged.cons _)
  | inside frame exchanged =>
      cases frame with
      | array before => exact .afterElement _ exchanged
      | object before awaited => exact .afterMember _ exchanged

theorem begin?_alike (frames : FramesExchanged name left right leftFrames rightFrames)
    (token : Token) :
    Option.Rel (Alike name left right) (begin? leftFrames token) (begin? rightFrames token) := by
  cases token with
  | null | boolean _ | number _ | string _ => exact .some (alike_complete frames _)
  | openArray => exact .some (.elementOrEnd frames)
  | openObject => exact .some (.memberOrEnd frames)
  | closeArray | closeObject | colon | comma => exact .none

theorem step?_alike (alike : Alike name left right leftState rightState) (token : Token) :
    Option.Rel (Alike name left right) (step? leftState token) (step? rightState token) := by
  cases alike with
  | valueNext frames => exact begin?_alike frames token
  | elementOrEnd frames =>
      have begun := begin?_alike (frames.inside (.array [])) token
      cases token with
      | closeArray => exact .some (alike_complete frames _)
      | _ => exact begun
  | memberOrEnd frames =>
      cases token with
      | closeObject => exact .some (alike_complete frames _)
      | string awaited => exact .some (.colonNext _ _ frames)
      | _ => exact .none
  | nameNext before frames =>
      cases token with
      | string awaited => exact .some (.colonNext _ _ frames)
      | _ => exact .none
  | colonNext before awaited frames =>
      cases token with
      | colon => exact .some (.valueNext (frames.inside _))
      | _ => exact .none
  | afterElement before frames =>
      cases token with
      | comma => exact .some (.valueNext (frames.inside _))
      | closeArray => exact .some (alike_complete frames _)
      | _ => exact .none
  | afterMember before frames =>
      cases token with
      | comma => exact .some (.nameNext _ frames)
      | closeObject => exact .some (alike_complete frames _)
      | _ => exact .none
  | outermostName exchanged =>
      cases token with
      | string awaited => exact .some (.outermostColon awaited exchanged)
      | _ => exact .none
  | outermostColon awaited exchanged =>
      cases token with
      | colon => exact .some (.valueNext (.outermost awaited exchanged))
      | _ => exact .none
  | outermostMember exchanged =>
      cases token with
      | comma => exact .some (.outermostName exchanged)
      | closeObject => exact .some (.finished exchanged.reverse)
      | _ => exact .none
  | finished exchanged => exact .none

theorem foldlM_alike (alike : Alike name left right leftState rightState) (tokens : List Token) :
    Option.Rel (Alike name left right) (tokens.foldlM step? leftState)
      (tokens.foldlM step? rightState) := by
  induction tokens generalizing leftState rightState with
  | nil => exact .some alike
  | cons token rest induction =>
      have stepped := step?_alike alike token
      rw [List.foldlM_cons, List.foldlM_cons]
      generalize step? leftState token = leftNext at *
      generalize step? rightState token = rightNext at *
      cases stepped with
      | none => exact .none
      | some next => exact induction next

end Steps

/-! ## Texts -/

/-- A text up to where the value of a member of the outermost object begins. -/
def Opens (name : String) (head : List Char) : Prop :=
  ∃ tokens before, Token.ofText head = some tokens ∧
    tokens.foldlM step? (.valueNext []) = some (.valueNext [.object before (some name)])

/-- The text is one token and the token is a whole value, whatever follows that cannot belong to a
number. -/
def Spells (text : List Char) (node : Node) : Prop :=
  ∃ token, (∀ frames, begin? frames token = some (complete node frames)) ∧
    ∀ rest, EndsNumber rest → Token.scanToken (text ++ rest) = some (token, rest)

theorem complete_ne_valueNext (node : Node) (frames outer : List Frame) :
    complete node frames ≠ .valueNext outer := by
  intro equal
  rcases frames with _ | ⟨_ | _, _⟩ <;> cases equal

theorem begin?_ne_valueNext (frames outer : List Frame) (token : Token) :
    begin? frames token ≠ some (.valueNext outer) := by
  cases token with
  | null | boolean _ | number _ | string _ =>
      exact fun equal => complete_ne_valueNext _ frames outer (Option.some.inj equal)
  | _ =>
      intro equal
      cases equal

variable {name : String} {head tail : List Char} {before : List (Option String × Node)}
  {awaited : Option String}

theorem eq_colon_of_step? {state : Awaiting} {token : Token}
    (stepped : step? state token = some (.valueNext [.object before awaited])) :
    token = .colon := by
  unfold step? at stepped
  split at stepped
  all_goals first
    | rfl
    | exact absurd stepped (begin?_ne_valueNext _ _ _)
    | exact absurd (Option.some.inj stepped) (complete_ne_valueNext _ _ _)
    | cases stepped

theorem getLast?_of_foldlM {tokens : List Token}
    (awaits : tokens.foldlM step? (.valueNext []) = some (.valueNext [.object before awaited])) :
    tokens.getLast? = some .colon := by
  rcases List.eq_nil_or_concat tokens with rfl | ⟨earlier, last, rfl⟩
  · cases awaits
  · rw [List.concat_eq_append, List.foldlM_append] at awaits
    rcases Option.bind_eq_some_iff.mp awaits with ⟨state, _, stepped⟩
    rw [List.foldlM_cons] at stepped
    rcases Option.bind_eq_some_iff.mp stepped with ⟨next, stepped, ended⟩
    cases ended
    rw [List.concat_eq_append, List.getLast?_concat, eq_colon_of_step? stepped]

def Awaiting.root? : Awaiting → Option Node
  | .nothing root => some root
  | _ => none

theorem ofTokens?_eq (tokens : List Token) :
    Node.ofTokens? tokens = (tokens.foldlM step? (.valueNext [])).bind Awaiting.root? := rfl

theorem exists_ofText?_eq (opens : Opens name head) :
    ∃ before, ∀ text node, Spells text node → ∀ tail, EndsNumber tail →
      Node.ofText? (String.ofList (head ++ (text ++ tail))) =
        (Token.ofText tail).bind fun later =>
          (later.foldlM step? (.afterMember ((some name, node) :: before) [])).bind
            Awaiting.root? := by
  rcases opens with ⟨tokens, before, found, awaits⟩
  have noNumber (numeral : Numeral) : tokens.getLast? ≠ some (.number numeral) := by
    rw [getLast?_of_foldlM awaits]
    intro equal
    cases equal
  refine ⟨before, ?_⟩
  rintro text node ⟨token, begins, scanned⟩ tail ends
  have scans := (Token.scans_append found noNumber (text ++ tail)).trans
    (scans_token (scanned tail ends))
  rw [Scans] at scans
  rw [Node.ofText?, String.toList_ofList, scans]
  cases Token.ofText tail with
  | none => rfl
  | some later =>
      have first : step? (.valueNext [.object before (some name)]) token =
          some (.afterMember ((some name, node) :: before) []) := begins _
      rw [Option.map_some]
      change Node.ofTokens? _ = _
      rw [ofTokens?_eq, List.append_assoc, List.foldlM_append, awaits]
      change ((token :: later).foldlM step? _).bind _ = _
      rw [List.foldlM_cons, first]
      rfl

variable {leftText rightText : List Char} {left right : Node}

/-- Of two texts that differ in one value both are trees or neither is, and the trees differ in
that value. -/
theorem ofText?_exchanged (opens : Opens name head) (ends : EndsNumber tail)
    (leftSpells : Spells leftText left) (rightSpells : Spells rightText right) :
    Option.Rel (RootsExchanged (some name) left right)
      (Node.ofText? (String.ofList (head ++ (leftText ++ tail))))
      (Node.ofText? (String.ofList (head ++ (rightText ++ tail)))) := by
  rcases exists_ofText?_eq opens with ⟨before, read⟩
  rw [read _ _ leftSpells _ ends, read _ _ rightSpells _ ends]
  cases Token.ofText tail with
  | none => exact .none
  | some later =>
      have alike : Alike (some name) left right (.afterMember ((some name, left) :: before) [])
          (.afterMember ((some name, right) :: before) []) :=
        .outermostMember (exchanged_head before)
      have ran := foldlM_alike alike later
      rw [Option.bind_some, Option.bind_some]
      generalize later.foldlM step? (.afterMember ((some name, left) :: before) []) = leftEnd at *
      generalize later.foldlM step? (.afterMember ((some name, right) :: before) []) = rightEnd
        at *
      cases ran with
      | none => exact .none
      | some alike =>
          cases alike with
          | finished exchanged => exact .some (.object exchanged)
          | _ => exact .none

/-! ## Values -/

structure FoundAlike (name : String) (left right : Value) (lefts rights : List (String × Value)) :
    Prop where
  others : ∀ other ≠ name, member? lefts other = member? rights other
  here : member? lefts name = member? rights name ∨
    member? lefts name = some left ∧ member? rights name = some right

inductive ObjectsAlike (name : String) (left right : Value) : Value → Value → Prop
  | object (found : FoundAlike name left right lefts rights) :
      ObjectsAlike name left right (.object lefts) (.object rights)

theorem Node.member?_of_exchanged {lefts rights : List (Option String × Node)}
    (exchanged : Exchanged (some name) left right lefts rights) :
    (∀ other ≠ name, member? lefts other = member? rights other) ∧
      (member? lefts name = member? rights name ∨
        member? lefts name = some left ∧ member? rights name = some right) := by
  rcases exchanged.reverse with ⟨before, after, leftParts, rightParts⟩
  unfold member?
  rw [leftParts, rightParts]
  constructor
  · intro other different
    have notHere : some name ≠ some other := fun equal => different (Option.some.inj equal).symm
    simp only [List.find?_append, List.find?_cons, decide_eq_false notHere]
  · simp only [List.find?_append, List.find?_cons, decide_true]
    cases before.find? (·.1 = some name) with
    | none => exact .inr ⟨rfl, rfl⟩
    | some member => exact .inl rfl

theorem Node.isSome_toMembers?_iff {depth : Nat} {members : List (Option String × Node)} :
    (toMembers? depth members).isSome ↔
      ∀ member ∈ members, member.1.isSome ∧ (member.2.toValue? depth).isSome := by
  induction members with
  | nil => simp [toMembers?]
  | cons member rest induction =>
      rcases member with ⟨name?, node⟩
      rw [List.forall_mem_cons, ← induction, toMembers?]
      cases name? with
      | none => simp
      | some name =>
          cases node.toValue? depth with
          | none => simp
          | some value => cases toMembers? depth rest <;> simp

theorem Node.toMembers?_exchanged {depth : Nat} {lefts rights : List (Option String × Node)}
    {leftValue rightValue : Value}
    (exchanged : Exchanged (some name) left right lefts rights)
    (leftRead : left.toValue? depth = some leftValue)
    (rightRead : right.toValue? depth = some rightValue) :
    Option.Rel (fun lefts rights => FoundAlike name leftValue rightValue
        (Value.sortMembers lefts) (Value.sortMembers rights))
      (toMembers? depth lefts) (toMembers? depth rights) := by
  have readable : (toMembers? depth lefts).isSome = (toMembers? depth rights).isSome := by
    rcases exchanged with ⟨before, after, rfl, rfl⟩
    rw [Bool.eq_iff_iff, isSome_toMembers?_iff, isSome_toMembers?_iff]
    simp only [List.forall_mem_append, List.forall_mem_cons, leftRead, rightRead,
      Option.isSome_some]
  rcases member?_of_exchanged exchanged with ⟨others, here⟩
  cases leftMembers : toMembers? depth lefts with
  | none =>
      rw [leftMembers, Option.isSome_none, eq_comm, Option.isSome_eq_false_iff,
        Option.isNone_iff_eq_none] at readable
      rw [readable]
      exact .none
  | some leftFound =>
      rw [leftMembers, Option.isSome_some, eq_comm] at readable
      rcases Option.isSome_iff_exists.mp readable with ⟨rightFound, rightMembers⟩
      have leftMember := member?_of_toMembers? leftMembers
      have rightMember := member?_of_toMembers? rightMembers
      have injective := Option.map_injective (Option.some_injective Value)
      rw [rightMembers]
      refine .some ⟨fun other different => injective ?_, here.imp (fun same => injective ?_) ?_⟩
      · rw [leftMember, rightMember, others other different]
      · rw [leftMember, rightMember, same]
      · rintro ⟨leftHere, rightHere⟩
        refine ⟨injective ?_, injective ?_⟩
        · rw [leftMember, leftHere, Option.map_some, leftRead, Option.map_some]
        · rw [rightMember, rightHere, Option.map_some, rightRead, Option.map_some]

theorem Value.ofText?_exchanged {leftValue rightValue : Value} (opens : Opens name head)
    (ends : EndsNumber tail) (leftSpells : Spells leftText left)
    (rightSpells : Spells rightText right)
    (leftRead : left.toValue? (greatestDepth - 1) = some leftValue)
    (rightRead : right.toValue? (greatestDepth - 1) = some rightValue) :
    Option.Rel (ObjectsAlike name leftValue rightValue)
      (Value.ofText? (String.ofList (head ++ (leftText ++ tail))))
      (Value.ofText? (String.ofList (head ++ (rightText ++ tail)))) := by
  have trees := Json.ofText?_exchanged opens ends leftSpells rightSpells
  unfold Value.ofText?
  generalize Node.ofText? (String.ofList (head ++ (leftText ++ tail))) = leftTree at *
  generalize Node.ofText? (String.ofList (head ++ (rightText ++ tail))) = rightTree at *
  cases trees with
  | none => exact .none
  | some roots =>
      cases roots with
      | @object lefts rights exchanged =>
          have values := Node.toMembers?_exchanged exchanged leftRead rightRead
          change Option.Rel _
            ((Node.toMembers? (greatestDepth - 1) lefts).map _)
            ((Node.toMembers? (greatestDepth - 1) rights).map _)
          generalize Node.toMembers? (greatestDepth - 1) lefts = leftMembers at *
          generalize Node.toMembers? (greatestDepth - 1) rights = rightMembers at *
          cases values with
          | none => exact .none
          | some found => exact .some (.object found)

theorem Value.ofText?_unreadable (opens : Opens name head) (ends : EndsNumber tail)
    (spells : Spells leftText left) (unreadable : ∀ depth, left.toValue? depth = none) :
    Value.ofText? (String.ofList (head ++ (leftText ++ tail))) = none := by
  have trees := Json.ofText?_exchanged opens ends spells spells
  unfold Value.ofText?
  generalize Node.ofText? (String.ofList (head ++ (leftText ++ tail))) = tree at *
  cases trees with
  | none => rfl
  | some roots =>
      cases roots with
      | object exchanged =>
          rcases exchanged with ⟨before, after, rfl, _⟩
          have unread : Node.toMembers? (greatestDepth - 1)
              (before ++ (some name, left) :: after) = none := by
            rw [← Option.not_isSome_iff_eq_none, Node.isSome_toMembers?_iff]
            intro readable
            have here := (readable (some name, left) (by simp)).2
            rw [unreadable] at here
            cases here
          change (Node.toMembers? (greatestDepth - 1)
            (before ++ (some name, left) :: after)).map _ = none
          rw [unread]
          rfl

end SignalReplay.Json
