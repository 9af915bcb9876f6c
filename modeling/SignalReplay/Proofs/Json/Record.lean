import SignalReplay.Proofs.Json.Text

/-!
Fields read back. A reader finds the number that was written if it is finite, and data that may be
missing come back without those that are written as null.
-/

namespace SignalReplay

theorem Quantity.ofFloat_value {quantity : Quantity} (finite : quantity.value.isFinite = true) :
    Quantity.ofFloat quantity.value = quantity := by
  rcases quantity with ⟨value, negativeUndefined, undefined⟩
  cases negativeUndefined with
  | false => rfl
  | true =>
      have isNaN : value.isNaN = true := undefined rfl
      change value.isFinite = true at finite
      rw [Binary64.isNaN_eq, decide_eq_true_eq] at isNaN
      rw [Binary64.isFinite_eq, decide_eq_true_eq] at finite
      omega

namespace Json

namespace Reader

theorem real_node {value : Float} (finite : value.isFinite = true) :
    Reader.real (Value.real value).node = some value := by
  rw [Value.real, Value.node, Reader.real, number_node_real finite]
  rfl

theorem quantity_node {quantity : Quantity} (finite : quantity.value.isFinite = true) :
    Reader.quantity (Value.real quantity.value).node = some quantity := by
  rw [Reader.quantity, real_node finite, Option.map_some, Quantity.ofFloat_value finite]

theorem node_of_not_finite {value : Float} (infinite : value.isFinite = false) :
    (Value.real value).node = .null := by
  rw [Value.real, Value.node, node_real_of_not_finite infinite]

theorem orNull_optional {read : Reader α} {write : α → Value} (keep : α → Bool)
    (null : read .null = none)
    (kept : ∀ value, keep value = true → read (write value).node = some value)
    (dropped : ∀ value, keep value = false → (write value).node = .null) (value : Option α) :
    read.orNull (Value.optional write value).node = some (value.filter keep) := by
  cases value with
  | none =>
      rw [Value.optional, Option.map_none, Option.getD_none, Value.node]
      rfl
  | some value =>
      rw [Value.optional, Option.map_some, Option.getD_some]
      cases keeps : keep value with
      | false =>
          rw [dropped value keeps, Option.filter_some_neg (by simpa using keeps)]
          rfl
      | true =>
          have found := kept value keeps
          rw [Option.filter_some_pos keeps]
          generalize (write value).node = node at found
          cases node with
          | null =>
              rw [null] at found
              cases found
          | _ => exact congrArg (Option.map some) found

@[simp]
theorem orNull_real (value : Option Float) :
    Reader.real.orNull (Value.optional .real value).node = some (value.filter Float.isFinite) :=
  orNull_optional Float.isFinite rfl (fun _ => real_node) (fun _ => node_of_not_finite) value

@[simp]
theorem orNull_quantity (value : Option Quantity) :
    Reader.quantity.orNull (Value.optional (.real ·.value) value).node =
      some (value.filter (·.value.isFinite)) :=
  orNull_optional (·.value.isFinite) rfl (fun _ => quantity_node) (fun _ => node_of_not_finite) value

/-! ## Required data -/

-- For a chain of reads that simp takes apart from the outside. From the inside it would visit the
-- last read again for each of those before it.
theorem bind_eq_some_iff {first : Option α} {next : α → Option β} {found : β} :
    (first >>= next) = some found ↔ ∃ value, first = some value ∧ next value = some found :=
  Option.bind_eq_some_iff

@[simp]
theorem pure_eq_some_iff {value found : α} :
    (pure value : Option α) = some found ↔ found = value := by
  rw [Option.pure_def, Option.some.injEq, eq_comm]

theorem real_node_eq_some_iff {value found : Float} :
    Reader.real (Value.real value).node = some found ↔ value.isFinite = true ∧ found = value := by
  cases finite : value.isFinite with
  | false =>
      rw [node_of_not_finite finite]
      simp [Reader.real, Reader.number]
  | true =>
      rw [real_node finite]
      simp [eq_comm]

theorem quantity_node_eq_some_iff {quantity found : Quantity} :
    Reader.quantity (Value.real quantity.value).node = some found ↔
      quantity.value.isFinite = true ∧ found = quantity := by
  cases finite : quantity.value.isFinite with
  | false =>
      rw [node_of_not_finite finite]
      simp [Reader.quantity, Reader.real, Reader.number]
  | true =>
      rw [quantity_node finite]
      simp [eq_comm]

theorem below_node {number bound : Nat} (fits : number < bound) (small : bound ≤ unsignedBound) :
    Reader.below bound (Value.count number).node = some number := by
  have found : Reader.number (Value.count number).node = some (.whole number) := by
    rw [Value.count, Value.node]
    exact number_node_whole (by omega) (by omega)
  rw [Reader.below, found]
  simp [fits]

theorem count_node {number : Nat} (fits : number < unsignedBound) :
    Reader.count (Value.count number).node = some number :=
  below_node fits (Nat.le_refl _)

@[simp]
theorem text_node (text : String) : Reader.text (Value.string text).node = some text := by
  rw [Value.node]
  rfl

theorem orNull_lossless {read : Reader α} {write : α → Value} (null : read .null = none)
    (kept : ∀ value, read (write value).node = some value) (value : Option α) :
    read.orNull (Value.optional write value).node = some value := by
  rw [orNull_optional (fun _ => true) null (fun value _ => kept value)
    (fun _ never => Bool.noConfusion never)]
  cases value <;> rfl

@[simp]
theorem orNull_text (text : Option String) :
    Reader.text.orNull (Value.optional .string text).node = some text :=
  orNull_lossless rfl text_node text

theorem list_node_eq_some_iff {read : Reader β} {write : α → Value} {keep : α → Prop}
    {change : α → β} {items : List α} {found : List β}
    (each : ∀ item ∈ items, ∀ found,
      read (write item).node = some found ↔ keep item ∧ found = change item) :
    Reader.list read (Value.array (items.map write)).node = some found ↔
      (∀ item ∈ items, keep item) ∧ found = items.map change := by
  rw [Value.node, Reader.list]
  induction items generalizing found with
  | nil => simp [Value.elementNodes, eq_comm]
  | cons item rest induction =>
      rcases List.forall_mem_cons.mp each with ⟨first, later⟩
      simp only [List.map_cons, Value.elementNodes, List.mapM_cons, Option.bind_eq_bind,
        Option.bind_eq_some_iff, first, induction later, List.forall_mem_cons]
      simp [and_assoc, eq_comm]

theorem list_node {read : Reader α} {write : α → Value} {items : List α}
    (each : ∀ item ∈ items, read (write item).node = some item) :
    Reader.list read (Value.array (items.map write)).node = some items := by
  have exactly : ∀ item ∈ items, ∀ found,
      read (write item).node = some found ↔ True ∧ found = item := by
    intro item member found
    rw [each item member]
    simp [eq_comm]
  have found := (list_node_eq_some_iff exactly).mpr ⟨fun _ _ => trivial, rfl⟩
  rwa [List.map_id'] at found

end Reader

/-! ## Records -/

namespace Record

variable {names : List String} {value : Value} {members : List (String × Value)}

theorem memberNodes_eq_map (members : List (String × Value)) :
    Value.memberNodes members = members.map fun member => (some member.1, member.2.node) := by
  induction members with
  | nil => rfl
  | cons member rest induction => rw [Value.memberNodes, induction, List.map_cons]

theorem find?_fields {found : List (String × Node)} (distinct : (found.map Prod.fst).Nodup)
    {name : String} {node : Node} (member : (name, node) ∈ found) :
    found.find? (·.1 = name) = some (name, node) := by
  induction found with
  | nil => cases member
  | cons field rest induction =>
      rcases List.nodup_cons.mp distinct with ⟨fresh, later⟩
      rcases List.mem_cons.mp member with rfl | inRest
      · simp
      · have other : field.1 ≠ name := fun equal =>
          fresh (equal ▸ List.mem_map_of_mem inRest)
        simp [other, induction later inRest]

/-- An object that was written with its fields in order is read as a record that holds each of
them. -/
theorem read?_node (names : List String) (written : value = .object members)
    (named : members.map Prod.fst = names) (distinct : Text.repeats names = false) :
    ∃ record, read? names value.node = some record ∧
      ∀ member ∈ members, record.field? member.1 = some member.2.node := by
  have found : (Value.memberNodes members).mapM (fun field => field.1.map (·, field.2)) =
      some (members.map fun member => (member.1, member.2.node)) := by
    rw [memberNodes_eq_map, List.mapM_map]
    exact List.mapM_pure
  have fields : (members.map fun member => (member.1, member.2.node)).map Prod.fst = names := by
    rw [← named]
    simp
  have known : (members.map fun member => (member.1, member.2.node)).filter
      (fun field => names.contains field.1) =
        members.map fun member => (member.1, member.2.node) := by
    apply List.filter_eq_self.mpr
    intro field member
    rw [List.contains_eq_mem, ← fields]
    exact decide_eq_true (List.mem_map_of_mem member)
  refine ⟨⟨members.map fun member => (member.1, member.2.node), false⟩, ?_, ?_⟩
  · rw [written, Value.node, read?]
    change Option.bind ((Value.memberNodes members).mapM fun field => field.1.map (·, field.2))
      (fun named : List (String × Node) =>
        let known := named.filter fun field => names.contains field.1
        if Text.repeats (known.map Prod.fst) then none else some (Record.mk known false)) = _
    rw [found, Option.bind_some]
    dsimp only
    rw [known, fields, distinct, if_neg Bool.false_ne_true]
  · intro member inMembers
    have held := find?_fields (fields ▸ Text.repeats_eq_false_iff.mp distinct)
      (List.mem_map_of_mem (f := fun member => (member.1, member.2.node)) inMembers)
    rw [field?, held]
    rfl

end Record

end Json

end SignalReplay
