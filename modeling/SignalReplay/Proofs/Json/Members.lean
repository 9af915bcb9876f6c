import Mathlib.Data.List.Forall2
import SignalReplay.Json.Node

/-!
Members of an object that was read. The object may repeat a name; the member found for a name is
then the last one that has it.
-/

namespace SignalReplay.Json

namespace Node

/-- The member of a tree with a given name; of several the last. -/
def member? (members : List (Option String × Node)) (name : String) : Option Node :=
  (members.reverse.find? (·.1 = some name)).map Prod.snd

end Node

namespace Value

@[simp]
theorem member?_insertMember (name other : String) (value : Value)
    (members : List (String × Value)) :
    Json.member? (insertMember name value members) other =
      if name = other then some value else Json.member? members other := by
  unfold Json.member?
  induction members with
  | nil => by_cases same : name = other <;> simp [insertMember, same]
  | cons first rest induction =>
      rcases first with ⟨head, present⟩
      unfold insertMember
      by_cases equal : name = head
      · by_cases same : name = other <;> simp_all
      · rw [if_neg equal]
        by_cases before : name < head
        · rw [if_pos before, List.find?_cons]
          by_cases same : name = other <;> simp [same]
        · rw [if_neg before, List.find?_cons, List.find?_cons]
          by_cases found : head = other
          · have different : name ≠ other := fun same => equal (same.trans found.symm)
            simp [found, different]
          · simpa [found] using induction

theorem member?_sortMembers (members : List (String × Value)) (name : String) :
    Json.member? (sortMembers members) name =
      (members.reverse.find? (·.1 = name)).map Prod.snd := by
  rw [sortMembers, List.foldl_eq_foldr_reverse]
  generalize members.reverse = reversed
  induction reversed with
  | nil => rfl
  | cons first rest induction =>
      rcases first with ⟨head, value⟩
      rw [List.foldr_cons, member?_insertMember, induction, List.find?_cons]
      by_cases same : head = name <;> simp [same]

end Value

namespace Node

variable {depth : Nat} {members : List (Option String × Node)} {values : List (String × Value)}

def ReadsAs (depth : Nat) (member : Option String × Node) (value : String × Value) : Prop :=
  member.1 = some value.1 ∧ member.2.toValue? depth = some value.2

theorem forall₂_of_toMembers? (read : toMembers? depth members = some values) :
    List.Forall₂ (ReadsAs depth) members values := by
  induction members generalizing values with
  | nil =>
      cases read
      exact .nil
  | cons member rest induction =>
      rcases member with ⟨name?, node⟩
      simp only [toMembers?, Option.bind_eq_bind, Option.bind_eq_some_iff] at read
      rcases read with ⟨name, named, value, valueRead, later, laterRead, equal⟩
      cases equal
      exact .cons ⟨named, valueRead⟩ (induction laterRead)

/-- What is found under a name is what the last member with that name is read as. -/
theorem member?_of_toMembers? (read : toMembers? depth members = some values) (name : String) :
    (Json.member? (Value.sortMembers values) name).map some =
      (member? members name).map (·.toValue? depth) := by
  rw [Value.member?_sortMembers, member?]
  have reversed := List.rel_reverse (forall₂_of_toMembers? read)
  generalize members.reverse = nodes at *
  generalize values.reverse = found at *
  induction reversed with
  | nil => rfl
  | @cons member value _ _ reads _ induction =>
      rcases member with ⟨name?, node⟩
      rcases value with ⟨head, value⟩
      rcases reads with ⟨named, valueRead⟩
      dsimp only at named valueRead
      rw [List.find?_cons, List.find?_cons, named]
      by_cases same : head = name
      · simp [same, valueRead]
      · simpa [same] using induction

theorem exists_members_of_toValue? {node : Node}
    (read : node.toValue? (depth + 1) = some (.object values)) :
    ∃ members found, node = .object members ∧ toMembers? depth members = some found ∧
      values = Value.sortMembers found := by
  cases node with
  | object members =>
      rcases Option.map_eq_some_iff.mp read with ⟨found, membersRead, equal⟩
      cases equal
      exact ⟨members, found, rfl, membersRead, rfl⟩
  | null | boolean _ => cases read
  | number _ | string _ | array _ =>
      rcases Option.map_eq_some_iff.mp read with ⟨_, _, equal⟩
      cases equal

end Node

end SignalReplay.Json
