import SignalReplay.Proofs.Failure

/-!
Records read one after the other. A reading is all or nothing: it gives what every record holds, or
it stops at the first record that cannot be read, whatever follows that record.
-/

namespace SignalReplay

variable {Record Item Error : Type}

def readEach (read : Nat → Record → Except Error (List Item)) (number : Nat) :
    List Record → Except Error (List Item)
  | [] => .ok []
  | record :: rest => do
    let found ← read number record
    return found ++ (← readEach read (number + 1) rest)

/-- The first of some records that fails: the records before it do not. -/
structure FailsFirst (Fails : Nat → Record → Error → Prop) (number : Nat) (records : List Record)
    (before : List Record) (record : Record) (error : Error) : Prop where
  here : ∃ rest, records = before ++ record :: rest
  fails : Fails (before.length + number) record error
  first : ∀ index other fault, before[index]? = some other → ¬ Fails (index + number) other fault

variable {Fails : Nat → Record → Error → Prop} {number : Nat} {records before rest : List Record}
  {first record : Record} {error : Error}

theorem failsFirst_head (fails : Fails number first error) :
    FailsFirst Fails number (first :: rest) [] first error where
  here := ⟨rest, rfl⟩
  fails := by rwa [List.length_nil, Nat.zero_add]
  first := fun _ _ _ here => by cases here

theorem failsFirst_cons_iff (passes : ∀ fault, ¬ Fails number first fault) :
    FailsFirst Fails number (first :: rest) (first :: before) record error ↔
      FailsFirst Fails (number + 1) rest before record error := by
  constructor
  · rintro ⟨⟨later, here⟩, fails, earlier⟩
    refine ⟨⟨later, (List.cons.inj here).2⟩, ?_, fun index other fault found => ?_⟩
    · rwa [List.length_cons, Nat.succ_add_eq_add_succ] at fails
    · have passed := earlier (index + 1) other fault found
      rwa [Nat.succ_add_eq_add_succ] at passed
  · rintro ⟨⟨later, rfl⟩, fails, earlier⟩
    refine ⟨⟨later, rfl⟩, ?_, fun index other fault found => ?_⟩
    · rwa [List.length_cons, Nat.succ_add_eq_add_succ]
    · cases index with
      | zero =>
          cases Option.some.inj found
          rw [Nat.zero_add]
          exact passes fault
      | succ index =>
          rw [Nat.succ_add_eq_add_succ]
          exact earlier index other fault found

theorem exists_failsFirst_cons_iff :
    (∃ before record, FailsFirst Fails number (first :: rest) before record error) ↔
      Fails number first error ∨ (∀ fault, ¬ Fails number first fault) ∧
        ∃ before record, FailsFirst Fails (number + 1) rest before record error := by
  constructor
  · rintro ⟨before, record, found⟩
    rcases found.here with ⟨later, here⟩
    cases before with
    | nil =>
        cases (List.cons.inj here).1
        have fails := found.fails
        rw [List.length_nil, Nat.zero_add] at fails
        exact .inl fails
    | cons other before =>
        cases (List.cons.inj here).1
        have passes (fault : Error) : ¬ Fails number first fault := by
          have passed := found.first 0 first fault rfl
          rwa [Nat.zero_add] at passed
        exact .inr ⟨passes, before, record, (failsFirst_cons_iff passes).mp found⟩
  · rintro (fails | ⟨passes, before, record, found⟩)
    · exact ⟨[], first, failsFirst_head fails⟩
    · exact ⟨first :: before, record, (failsFirst_cons_iff passes).mpr found⟩

theorem readEach_cons_eq_error_iff {read : Nat → Record → Except Error (List Item)} :
    readEach read number (first :: rest) = .error error ↔
      read number first = .error error ∨ (∀ fault, read number first ≠ .error fault) ∧
        readEach read (number + 1) rest = .error error := by
  rw [readEach]
  cases read number first with
  | error fault => simp [bind, Except.bind]
  | ok found =>
      cases readEach read (number + 1) rest <;> simp [bind, Except.bind, pure, Except.pure]

/-- A reading fails exactly if some record does, and then with the failure of the first one. -/
theorem readEach_eq_error_iff {read : Nat → Record → Except Error (List Item)}
    (fails : ∀ number record error, read number record = .error error ↔ Fails number record error) :
    readEach read number records = .error error ↔
      ∃ before record, FailsFirst Fails number records before record error := by
  induction records generalizing number with
  | nil =>
      constructor
      · intro failed
        cases failed
      · rintro ⟨before, record, ⟨rest, here⟩, _, _⟩
        exact absurd here.symm (List.append_ne_nil_of_right_ne_nil _ (List.cons_ne_nil _ _))
  | cons first rest induction =>
      simp only [readEach_cons_eq_error_iff, exists_failsFirst_cons_iff, induction, ne_eq, fails]

end SignalReplay
