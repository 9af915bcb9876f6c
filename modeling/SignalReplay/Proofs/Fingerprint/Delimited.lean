import SignalReplay.Fingerprint.Dataset
import SignalReplay.Proofs.Binary64.Fields
import SignalReplay.Proofs.Text.Utf8

/-!
Bytes that end by themselves. Where an encoder delimits a view of what it encodes, the bytes tell
that view and the place where they end, whatever comes after them. Words of 64 bits do so by their
width, texts by the length in front of them, and encoders that delimit can be put in a row.
-/

namespace SignalReplay.Fingerprint

variable {α β γ : Type}

/-- Among valid values, the bytes of one tell its view and where they end. -/
def Delimits (valid : α → Prop) (encode : α → List UInt8) (view : α → β) : Prop :=
  ∀ ⦃left right⦄, valid left → valid right → ∀ ⦃rest others⦄,
    encode left ++ rest = encode right ++ others → view left = view right ∧ rest = others

namespace Delimits

theorem of_length {valid : α → Prop} {encode : α → List UInt8} {view : α → β} {width : Nat}
    (length : ∀ value, (encode value).length = width)
    (injective : ∀ ⦃left right⦄, valid left → valid right → encode left = encode right →
      view left = view right) : Delimits valid encode view := by
  intro left right leftValid rightValid rest others equal
  rcases List.append_inj equal ((length left).trans (length right).symm) with ⟨same, after⟩
  exact ⟨injective leftValid rightValid same, after⟩

theorem append {valid : α → Prop} {encode encode' : α → List UInt8} {view : α → β}
    {view' : α → γ} (first : Delimits valid encode view) (second : Delimits valid encode' view') :
    Delimits valid (fun value => encode value ++ encode' value)
      (fun value => (view value, view' value)) := by
  intro left right leftValid rightValid rest others equal
  rw [List.append_assoc, List.append_assoc] at equal
  rcases first leftValid rightValid equal with ⟨views, after⟩
  rcases second leftValid rightValid after with ⟨views', after'⟩
  exact ⟨Prod.ext views views', after'⟩

theorem field {valid : α → Prop} {encode : α → List UInt8} {view : α → β} {whole : γ → Prop}
    (delimits : Delimits valid encode view) (project : γ → α)
    (validField : ∀ value, whole value → valid (project value)) :
    Delimits whole (fun value => encode (project value)) (fun value => view (project value)) := by
  intro left right leftValid rightValid rest others equal
  exact delimits (validField left leftValid) (validField right rightValid) equal

/-! ## Lists -/

theorem flatMap_of_length {valid : α → Prop} {encode : α → List UInt8} {view : α → β}
    (delimits : Delimits valid encode view) {lefts rights : List α}
    (leftValid : ∀ value ∈ lefts, valid value) (rightValid : ∀ value ∈ rights, valid value)
    (length : lefts.length = rights.length) {rest others : List UInt8}
    (equal : lefts.flatMap encode ++ rest = rights.flatMap encode ++ others) :
    lefts.map view = rights.map view ∧ rest = others := by
  induction lefts generalizing rights with
  | nil =>
      rw [List.eq_nil_of_length_eq_zero length.symm] at equal ⊢
      exact ⟨rfl, equal⟩
  | cons left lefts induction =>
      cases rights with
      | nil => contradiction
      | cons right rights =>
          rw [List.flatMap_cons, List.flatMap_cons, List.append_assoc, List.append_assoc] at equal
          rcases delimits (leftValid left List.mem_cons_self) (rightValid right List.mem_cons_self)
            equal with ⟨views, after⟩
          rcases induction (fun value member => leftValid value (List.mem_cons_of_mem _ member))
            (fun value member => rightValid value (List.mem_cons_of_mem _ member))
            (Nat.succ.inj length) after with ⟨tails, afterAll⟩
          rw [List.map_cons, List.map_cons, views, tails]
          exact ⟨rfl, afterAll⟩

theorem flatMap {valid : α → Prop} {encode : α → List UInt8} {view : α → β}
    (delimits : Delimits valid encode view) (nonempty : ∀ value, encode value ≠ [])
    {lefts rights : List α} (leftValid : ∀ value ∈ lefts, valid value)
    (rightValid : ∀ value ∈ rights, valid value)
    (equal : lefts.flatMap encode = rights.flatMap encode) :
    lefts.map view = rights.map view := by
  induction lefts generalizing rights with
  | nil =>
      cases rights with
      | nil => rfl
      | cons right rights =>
          rw [List.flatMap_cons, List.flatMap_nil, eq_comm, List.append_eq_nil_iff] at equal
          exact absurd equal.1 (nonempty right)
  | cons left lefts induction =>
      cases rights with
      | nil =>
          rw [List.flatMap_cons, List.flatMap_nil, List.append_eq_nil_iff] at equal
          exact absurd equal.1 (nonempty left)
      | cons right rights =>
          rw [List.flatMap_cons, List.flatMap_cons] at equal
          rcases delimits (leftValid left List.mem_cons_self) (rightValid right List.mem_cons_self)
            equal with ⟨views, after⟩
          rw [List.map_cons, List.map_cons, views,
            induction (fun value member => leftValid value (List.mem_cons_of_mem _ member))
              (fun value member => rightValid value (List.mem_cons_of_mem _ member)) after]

end Delimits

/-! ## Words -/

@[simp]
theorem length_word64 (value : Nat) : (word64 value).length = 8 :=
  LittleEndian.length_encode 8 value

theorem word64_injective {left right : Nat} (leftFits : left < 2 ^ 64) (rightFits : right < 2 ^ 64)
    (equal : word64 left = word64 right) : left = right := by
  have decoded := congrArg LittleEndian.decode equal
  unfold word64 at decoded
  rw [LittleEndian.decode_encode, LittleEndian.decode_encode] at decoded
  have room : Nat.pow 256 8 = 2 ^ 64 := rfl
  rwa [room, Nat.mod_eq_of_lt leftFits, Nat.mod_eq_of_lt rightFits] at decoded

theorem word64_delimits : Delimits (fun value => value < 2 ^ 64) word64 id :=
  .of_length length_word64 fun _ _ => word64_injective

theorem micros_bounds (instant : Instant) :
    -(2 ^ 63) ≤ instant.micros ∧ instant.micros < 2 ^ 63 := by
  have bound := instant.nano_lt
  have inRange := instant.date_in_range
  rw [Date.isInRange, Bool.and_eq_true, decide_eq_true_eq, decide_eq_true_eq] at inRange
  have first : -96465292 ≤ instant.second / 86400 := inRange.1
  have last : instant.second / 86400 < 95026237 := inRange.2
  rw [Instant.micros]
  omega

theorem instantBytes_delimits : Delimits (fun _ => True) instantBytes Instant.micros := by
  refine .of_length (fun _ => length_word64 _) ?_
  intro left right _ _ equal
  have leftBounds := micros_bounds left
  have rightBounds := micros_bounds right
  have words := word64_injective (by omega) (by omega) equal
  omega

theorem bits_of_negativeUndefined {quantity : Quantity}
    (negative : quantity.negativeUndefined = true) : quantity.bits = 0xFFF8000000000000 := by
  rw [Quantity.bits, Binary64.toBits_of_isNaN (quantity.isNaN_of_negativeUndefined negative),
    if_pos negative]
  rfl

/-- Bits without the sign of an undefined value. They are never those of an undefined value that
has the sign. -/
theorem bits_of_not_negativeUndefined {quantity : Quantity}
    (positive : quantity.negativeUndefined = false) :
    quantity.bits = quantity.value.toBits.toNat ∧ quantity.bits ≠ 0xFFF8000000000000 := by
  have bits : quantity.bits = quantity.value.toBits.toNat := by
    rw [Quantity.bits, positive]
    rfl
  refine ⟨bits, ?_⟩
  intro equal
  rw [bits] at equal
  have undefined : quantity.value.isNaN = true := by
    rw [Binary64.isNaN_eq, Binary64.magnitudeBits, equal]
    decide
  rw [Binary64.toBits_of_isNaN undefined] at equal
  contradiction

theorem bits_lt (quantity : Quantity) : quantity.bits < 2 ^ 64 := by
  cases negative : quantity.negativeUndefined with
  | true =>
      rw [bits_of_negativeUndefined negative]
      decide
  | false =>
      rw [(bits_of_not_negativeUndefined negative).1]
      exact quantity.value.toBits.toNat_lt

theorem bits_injective {left right : Quantity} (equal : left.bits = right.bits) :
    left = right := by
  have signs : left.negativeUndefined = right.negativeUndefined := by
    cases leftSign : left.negativeUndefined <;> cases rightSign : right.negativeUndefined
    · rfl
    · rw [bits_of_negativeUndefined rightSign] at equal
      exact absurd equal (bits_of_not_negativeUndefined leftSign).2
    · rw [bits_of_negativeUndefined leftSign] at equal
      exact absurd equal.symm (bits_of_not_negativeUndefined rightSign).2
    · rfl
  have values : left.value = right.value := by
    apply Binary64.eq_of_toBits
    rw [Quantity.bits, Quantity.bits, signs] at equal
    exact Nat.add_right_cancel equal
  cases left
  cases right
  cases signs
  cases values
  rfl

theorem quantityBytes_delimits : Delimits (fun _ => True) quantityBytes id := by
  refine .of_length (fun _ => length_word64 _) ?_
  intro left right _ _ equal
  have words := word64_injective (bits_lt left) (bits_lt right) equal
  exact bits_injective words

theorem volumeBytes_delimits : Delimits (fun _ => True) volumeBytes (fun _ => ()) := by
  have length (volume : Option Quantity) : (volumeBytes volume).length = 8 := by
    cases volume <;> exact length_word64 _
  exact .of_length length fun _ _ _ _ _ => rfl

/-! ## Texts -/

def Fits (text : String) : Prop :=
  (Utf8.encode text).length < 2 ^ 64

theorem textBytes_delimits : Delimits Fits textBytes id := by
  intro left right leftFits rightFits rest others equal
  unfold textBytes at equal
  rw [List.append_assoc, List.append_assoc] at equal
  rcases word64_delimits leftFits rightFits equal with ⟨lengths, after⟩
  rcases List.append_inj after lengths with ⟨same, afterText⟩
  exact ⟨Utf8.encode_injective same, afterText⟩

theorem optionalTextBytes_delimits :
    Delimits (fun text? => ∀ text ∈ text?, Fits text) optionalTextBytes id := by
  intro left right leftFits rightFits rest others equal
  cases left with
  | none =>
      cases right with
      | none => exact ⟨rfl, List.cons.inj equal |>.2⟩
      | some right => exact absurd (List.cons.inj equal).1 (by decide)
  | some left =>
      cases right with
      | none => exact absurd (List.cons.inj equal).1 (by decide)
      | some right =>
          rcases textBytes_delimits (leftFits left rfl) (rightFits right rfl)
            (List.cons.inj equal).2 with ⟨same, after⟩
          exact ⟨congrArg some same, after⟩

theorem directionBytes_delimits :
    Delimits (fun _ => True) (fun direction : Direction => textBytes direction.text) id := by
  intro left right _ _ rest others equal
  have fits (direction : Direction) : Fits direction.text := by
    rw [Fits, Utf8.encode_eq_flatMap]
    cases direction <;> decide
  rcases textBytes_delimits (fits left) (fits right) equal with ⟨same, after⟩
  refine ⟨?_, after⟩
  cases left <;> cases right <;> first | rfl | exact absurd same (by decide)

end SignalReplay.Fingerprint
