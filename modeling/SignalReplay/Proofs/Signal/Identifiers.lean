import SignalReplay.Proofs.Json.Members
import SignalReplay.Proofs.Json.Spelling
import SignalReplay.Proofs.Signal.Reading

/-!
Identifiers of the signals of a file. A line gives a text or a number, or its signal is named after
the line. All three become texts, so that what differs on two lines can still be one identifier.
-/

namespace SignalReplay.SignalLines

open Json

/-- Where the identifier of a signal comes from. -/
inductive Naming
  | text (content : String)
  | number (numeral : Numeral)
  | line (number : Nat)
deriving DecidableEq

namespace Naming

def ofMembers? (number : Nat) (members : List (Option String × Node)) : Option Naming :=
  match Node.member? members "signal_id" with
  | none | some .null => some (.line number)
  | some (.string content) => content.map Naming.text
  | some (.number numeral) => some (.number numeral)
  | some _ => none

def ofLine? (number : Nat) (bytes : List UInt8) : Option Naming :=
  match Utf8.decode bytes with
  | .error _ => none
  | .ok content =>
    if Text.isBlankText content then none
    else
      match Node.ofText? content with
      | some (.object members) => ofMembers? number members
      | _ => none

def ofLines (number : Nat) : List (List UInt8) → List Naming
  | [] => []
  | bytes :: rest => (ofLine? number bytes).toList ++ ofLines (number + 1) rest

def ofFile (bytes : List UInt8) : List Naming :=
  ofLines 1 (Text.lines bytes)

def id? : Naming → Option String
  | .text content => some content
  | .number numeral => numeral.number?.map Number.write
  | .line position => some ("sig_" ++ toString position)

/-- Two lines give one identifier: texts that are equal or numbers of one value. -/
def Same : Naming → Naming → Prop
  | .text left, .text right => left = right
  | .number left, .number right => left.decimal.toRat = right.decimal.toRat
  | _, _ => False

/-- Numbers of different values are not read as one number of 64 bits. -/
def ReadApart : Naming → Naming → Prop
  | .number left, .number right =>
    left.number? = right.number? → left.decimal.toRat = right.decimal.toRat
  | _, _ => True

/-- A text is what a number is written as, or what a signal is named after its line. -/
def Imitates : Naming → Naming → Prop
  | .text content, .number numeral => numeral.number?.map Number.write = some content
  | .text content, .line position => "sig_" ++ toString position = content
  | _, _ => False

instance : DecidableRel Same
  | .text left, .text right => inferInstanceAs (Decidable (left = right))
  | .number left, .number right =>
    inferInstanceAs (Decidable (left.decimal.toRat = right.decimal.toRat))
  | .text _, .number _ | .text _, .line _ | .number _, .text _ | .number _, .line _ | .line _, _ =>
    .isFalse id

instance : DecidableRel ReadApart
  | .number left, .number right =>
    inferInstanceAs (Decidable (left.number? = right.number? →
      left.decimal.toRat = right.decimal.toRat))
  | .text _, _ | .number _, .text _ | .number _, .line _ | .line _, _ => .isTrue trivial

instance : DecidableRel Imitates
  | .text content, .number numeral =>
    inferInstanceAs (Decidable (numeral.number?.map Number.write = some content))
  | .text content, .line position =>
    inferInstanceAs (Decidable ("sig_" ++ toString position = content))
  | .text _, .text _ | .number _, _ | .line _, _ => .isFalse id

variable {left right : Naming} {number other : Nat}

/-! ## Identifiers of namings -/

theorem Imitates.id?_eq (imitates : left.Imitates right) : left.id? = right.id? := by
  cases left with
  | text content =>
      cases right with
      | text other => cases imitates
      | number numeral => exact imitates.symm
      | line position => exact congrArg some imitates.symm
  | number numeral => cases imitates
  | line position => cases imitates

theorem write_ne_line {numeral : Numeral} {number : Number} (read : numeral.number? = some number)
    (line : Nat) : number.write ≠ "sig_" ++ toString line := by
  apply write_ne_of_scanNumber read
  rw [String.toList_append]
  rfl

theorem eq_of_line_eq (equal : "sig_" ++ toString number = "sig_" ++ toString other) :
    number = other :=
  Nat.repr_inj.mp ((String.append_right_inj "sig_").mp equal)

/-- Namings that differ as they are given have one identifier only if one of them is a text that
imitates the other. -/
theorem imitates_of_id?_eq (given : left.id?.isSome) (different : ¬ left.Same right)
    (readApart : left.ReadApart right)
    (lines : ∀ position, left = .line position → right ≠ .line position)
    (equal : left.id? = right.id?) : left.Imitates right ∨ right.Imitates left := by
  cases left with
  | text content =>
      cases right with
      | text other => exact absurd (Option.some.inj equal) different
      | number numeral => exact .inl equal.symm
      | line position => exact .inl (Option.some.inj equal.symm)
  | number numeral =>
      rcases Option.isSome_iff_exists.mp given with ⟨written, identified⟩
      rcases Option.map_eq_some_iff.mp identified with ⟨number, read, rfl⟩
      rw [identified] at equal
      cases right with
      | text content => exact .inr (identified.trans equal)
      | number other =>
          -- Two numerals that are written alike were read as one number.
          rcases Option.map_eq_some_iff.mp equal.symm with ⟨otherNumber, otherRead, alike⟩
          cases eq_of_write_eq otherRead read alike
          exact absurd (readApart (read.trans otherRead.symm)) different
      | line position => exact absurd (Option.some.inj equal) (write_ne_line read position)
  | line position =>
      cases right with
      | text content => exact .inr (Option.some.inj equal)
      | number numeral =>
          rcases Option.map_eq_some_iff.mp equal.symm with ⟨number, read, alike⟩
          exact absurd alike (write_ne_line read position)
      | line other =>
          cases eq_of_line_eq (Option.some.inj equal)
          exact absurd rfl (lines position rfl)

/-! ## Namings of lines -/

variable {pattern source : String} {bytes : List UInt8} {lines : List (List UInt8)}

theorem ofMembers?_of_identifier {depth : Nat} {members : List (Option String × Node)}
    {values : List (String × Value)} {id : String}
    (read : Node.toMembers? depth members = some values)
    (identified : identifier (Value.sortMembers values) number = .ok id) :
    ∃ naming, ofMembers? number members = some naming ∧ naming.id? = some id := by
  have found := Node.member?_of_toMembers? read "signal_id"
  unfold identifier given? at identified
  unfold ofMembers?
  cases member : Node.member? members "signal_id" with
  | none =>
      rw [member, Option.map_none, Option.map_eq_none_iff] at found
      rw [found] at identified
      exact ⟨_, rfl, congrArg some (Except.ok.inj identified)⟩
  | some node =>
      rw [member, Option.map_some] at found
      rcases Option.map_eq_some_iff.mp found with ⟨value, present, valueRead⟩
      rw [present] at identified
      cases node with
      | null =>
          cases valueRead
          exact ⟨_, rfl, congrArg some (Except.ok.inj identified)⟩
      | boolean value =>
          cases valueRead
          cases identified
      | number numeral =>
          rcases Option.map_eq_some_iff.mp valueRead.symm with ⟨other, numberRead, rfl⟩
          cases identified
          exact ⟨_, rfl, congrArg (Option.map Number.write) numberRead⟩
      | string content =>
          rcases Option.map_eq_some_iff.mp valueRead.symm with ⟨text, rfl, rfl⟩
          cases identified
          exact ⟨_, rfl, rfl⟩
      | array _ | object _ =>
          cases depth with
          | zero => cases valueRead
          | succ depth =>
              rcases Option.map_eq_some_iff.mp valueRead.symm with ⟨_, _, rfl⟩
              cases identified

theorem ofLine?_of_isBlank (blank : IsBlank bytes) : ofLine? number bytes = none := by
  rcases blank with ⟨content, rfl, blank⟩
  unfold ofLine?
  rw [Utf8.decode_eq_ok_iff.mpr rfl]
  exact if_pos blank

theorem ofLine?_of_isGood {signal : Signal} (good : IsGood pattern number bytes signal) :
    ∃ naming, ofLine? number bytes = some naming ∧ naming.id? = some signal.id := by
  rcases good with ⟨content, rfl, visible, accepted⟩
  unfold ofLine?
  rw [Utf8.decode_eq_ok_iff.mpr rfl]
  dsimp only
  rw [visible, if_neg Bool.false_ne_true]
  unfold parse at accepted
  split at accepted
  · cases accepted
  · next found =>
      rcases Option.bind_eq_some_iff.mp found with ⟨node, parsed, valueRead⟩
      rcases Node.exists_members_of_toValue? valueRead with
        ⟨members, values, rfl, membersRead, rfl⟩
      rw [parsed]
      exact ofMembers?_of_identifier membersRead (identifier_of_signal accepted)
  · cases accepted

theorem map_id?_ofLines {found : List Signal} (held : Hold pattern number lines found) :
    (ofLines number lines).map id? = found.map fun signal => some signal.id := by
  induction held with
  | nil => rfl
  | cons reads later induction =>
      rw [ofLines, List.map_append, List.map_append, induction]
      cases reads with
      | blank blank => rw [ofLine?_of_isBlank blank]; rfl
      | good good =>
          rcases ofLine?_of_isGood good with ⟨naming, here, identified⟩
          rw [here, Option.toList_some, List.map_singleton, identified]
          rfl

theorem eq_of_ofMembers?_eq_line {members : List (Option String × Node)} {position : Nat}
    (here : ofMembers? number members = some (.line position)) : position = number := by
  unfold ofMembers? at here
  split at here
  · exact (Naming.line.inj (Option.some.inj here)).symm
  · exact (Naming.line.inj (Option.some.inj here)).symm
  · rcases Option.map_eq_some_iff.mp here with ⟨_, _, equal⟩
    cases equal
  · cases here
  · cases here

theorem eq_of_ofLine?_eq_line {position : Nat}
    (here : ofLine? number bytes = some (.line position)) : position = number := by
  unfold ofLine? at here
  split at here
  · cases here
  · split at here
    · cases here
    · split at here
      · exact eq_of_ofMembers?_eq_line here
      · cases here

theorem le_of_line_mem {position : Nat} (member : Naming.line position ∈ ofLines number lines) :
    number ≤ position := by
  induction lines generalizing number with
  | nil => cases member
  | cons bytes rest induction =>
      rcases List.mem_append.mp member with here | later
      · exact (eq_of_ofLine?_eq_line (Option.mem_toList.mp here)).ge
      · exact Nat.le_of_succ_le (induction later)

theorem pairwise_line_ne (number : Nat) (lines : List (List UInt8)) :
    (ofLines number lines).Pairwise fun left right =>
      ∀ position, left = .line position → right ≠ .line position := by
  induction lines generalizing number with
  | nil => exact .nil
  | cons bytes rest induction =>
      refine List.pairwise_append.mpr ⟨?_, induction (number + 1), ?_⟩
      · cases ofLine? number bytes with
        | none => exact .nil
        | some naming => exact List.pairwise_singleton _ _
      · rintro left here right later position rfl rfl
        obtain rfl := eq_of_ofLine?_eq_line (Option.mem_toList.mp here)
        exact Nat.not_succ_le_self _ (le_of_line_mem later)

/-! ## Files -/

variable {found : List Signal}

theorem map_id?_perm_of_read (loaded : read pattern source bytes = .ok found) :
    ((ofFile bytes).map id?).Perm (found.map fun signal => some signal.id) := by
  cases read_eq_iff_readsAs.mp loaded with
  | loaded held notEmpty =>
      rw [ofFile, map_id?_ofLines held]
      exact ((List.mergeSort_perm _ _).map _).symm

theorem nodup_ids_iff_pairwise (loaded : read pattern source bytes = .ok found) :
    (found.map (·.id)).Nodup ↔
      (ofFile bytes).Pairwise fun left right => left.id? ≠ right.id? := by
  have identified := (map_id?_perm_of_read loaded).nodup_iff
  rw [← List.nodup_map_iff (Option.some_injective _), List.map_map]
  rw [List.Nodup, List.pairwise_map] at identified
  exact identified.symm

/-- If no text and no number is given on two lines of a file, and numbers of different values are
not read as one, then the identifiers of its signals are all different exactly if no text that is
given is what a number of another line is written as, or what a signal without an identifier is
named after its line. -/
theorem nodup_ids_iff (loaded : read pattern source bytes = .ok found)
    (different : (ofFile bytes).Pairwise fun left right => ¬ left.Same right)
    (readApart : (ofFile bytes).Pairwise ReadApart) :
    (found.map (·.id)).Nodup ↔ (ofFile bytes).Pairwise fun left right =>
      ¬ left.Imitates right ∧ ¬ right.Imitates left := by
  rw [nodup_ids_iff_pairwise loaded]
  constructor
  · intro distinct
    refine distinct.imp fun apart => ⟨fun imitates => ?_, fun imitates => ?_⟩
    · exact apart imitates.id?_eq
    · exact apart imitates.id?_eq.symm
  · intro original
    have given : ∀ naming ∈ ofFile bytes, naming.id?.isSome := by
      intro naming member
      have identified := (map_id?_perm_of_read loaded).mem_iff.mp (List.mem_map_of_mem member)
      rcases List.mem_map.mp identified with ⟨signal, _, equal⟩
      rw [← equal, Option.isSome_some]
    have lines := pairwise_line_ne 1 (Text.lines bytes)
    refine ((original.and different).and (readApart.and lines)).imp_of_mem ?_
    rintro left right leftMember _ ⟨⟨⟨notLeft, notRight⟩, apart⟩, readApart, lines⟩ equal
    exact (imitates_of_id?_eq (given left leftMember) apart readApart lines equal).elim
      notLeft notRight

def namedLine (id : String) : List UInt8 :=
  Utf8.encode ("\x7b\"signal_id\": " ++ id ++
    ", \"timestamp\": \"2024-01-02 09:00:00\", \"direction\": \"long\"\x7d\n")

/-- The last line gives the text that the second would go by if it gave none. -/
def fourNamings : List UInt8 :=
  namedLine "7" ++ namedLine "\"8\"" ++ namedLine "null" ++ namedLine "\"sig_2\""

theorem nodup_ids_fourNamings :
    ∃ found, read Timestamp.standardPattern "signals.jsonl" fourNamings = .ok found ∧
      (found.map (·.id)).Nodup := by
  have holds : (read Timestamp.standardPattern "signals.jsonl" fourNamings).isOk = true ∧
      ((ofFile fourNamings).Pairwise fun left right => ¬ left.Same right) ∧
      (ofFile fourNamings).Pairwise ReadApart ∧
      (ofFile fourNamings).Pairwise fun left right =>
        ¬ left.Imitates right ∧ ¬ right.Imitates left := by
    decide +kernel
  rcases holds with ⟨succeeds, different, readApart, original⟩
  rcases exists_eq_ok succeeds with ⟨found, loaded⟩
  exact ⟨found, loaded, (nodup_ids_iff loaded different readApart).mpr original⟩

/-- A file gives no text and no number on two of its lines, and two of its signals share an
identifier all the same. -/
def RepeatsId (bytes : List UInt8) : Prop :=
  ∃ found, read Timestamp.standardPattern "signals.jsonl" bytes = .ok found ∧
    ((ofFile bytes).Pairwise fun left right => ¬ left.Same right) ∧
    ¬ (found.map (·.id)).Nodup

theorem repeatsId_of_namings
    (namings : (read Timestamp.standardPattern "signals.jsonl" bytes).isOk = true ∧
      ((ofFile bytes).Pairwise fun left right => ¬ left.Same right) ∧
      ¬ (ofFile bytes).Pairwise fun left right => left.id? ≠ right.id?) : RepeatsId bytes := by
  rcases namings with ⟨succeeds, different, equal⟩
  rcases exists_eq_ok succeeds with ⟨found, loaded⟩
  exact ⟨found, loaded, different, mt (nodup_ids_iff_pairwise loaded).mp equal⟩

/-- A text is what the next signal is named after its line, or the digits of a number, or two
numbers are read as one. -/
theorem repeatsId_of_text_or_number :
    RepeatsId (namedLine "\"sig_2\"" ++ namedLine "null") ∧
      RepeatsId (namedLine "7" ++ namedLine "\"7\"") ∧
      RepeatsId (namedLine "18446744073709551616" ++ namedLine "18446744073709551617") := by
  refine ⟨repeatsId_of_namings ?_, repeatsId_of_namings ?_, repeatsId_of_namings ?_⟩
  all_goals decide +kernel

end Naming
end SignalReplay.SignalLines
