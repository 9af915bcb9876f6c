import SignalReplay.Proofs.Json.Number

/-!
Numbers as texts. A number that was read is written as a numeral that is read as the number again,
so its text is that of no other number and no word.
-/

namespace SignalReplay.Json

variable {numeral other : Numeral} {number left right : Number}

/-- What a numeral is read as: a whole number within 64 bits or a finite number. -/
inductive IsRead : Number → Prop
  | whole {value : Int} (low : -(signedBound : Int) ≤ value) (high : value < unsignedBound) :
      IsRead (.whole value)
  | real {value : Float} (finite : value.isFinite = true) : IsRead (.real value)

theorem isRead_of_number? (read : numeral.number? = some number) : IsRead number := by
  have signed : (0 : Int) ≤ signedBound := Int.natCast_nonneg _
  have unsigned : (0 : Int) < unsignedBound := by decide
  unfold Numeral.number? at read
  dsimp only at read
  split at read
  · next fits =>
      simp only [Bool.and_eq_true, decide_eq_true_eq] at fits
      cases read
      exact .whole (by omega) (by omega)
  · split at read
    · next fits =>
        simp only [Bool.and_eq_true, decide_eq_true_eq] at fits
        cases read
        exact .whole (by omega) (by omega)
    · split at read
      · next finite =>
          cases read
          exact .real finite
      · cases read

theorem number_node_of_isRead (isRead : IsRead number) :
    Reader.number number.node = some number := by
  cases isRead with
  | whole low high => exact number_node_whole low high
  | real finite => exact number_node_real finite

theorem eq_of_write_eq (leftRead : numeral.number? = some left)
    (rightRead : other.number? = some right) (equal : left.write = right.write) :
    left = right := by
  have nodes : left.node = right.node := by
    rw [Number.node, Number.node, Number.numeral?, Number.numeral?, equal]
  have leftBack := number_node_of_isRead (isRead_of_number? leftRead)
  rw [nodes, number_node_of_isRead (isRead_of_number? rightRead)] at leftBack
  exact (Option.some.inj leftBack).symm

theorem write_ne_of_scanNumber {text : String} (read : numeral.number? = some number)
    (none : Token.scanNumber text.toList = none) : number.write ≠ text := by
  rintro rfl
  have back := number_node_of_isRead (isRead_of_number? read)
  rw [Number.node, Number.numeral?, none] at back
  cases back

end SignalReplay.Json
