/-!
Whole numbers as bytes, the least byte first.
-/

namespace SignalReplay.LittleEndian

def encode : Nat → Nat → List UInt8
  | 0, _ => []
  | count + 1, value => UInt8.ofNat value :: encode count (value / 256)

def decode : List UInt8 → Nat
  | [] => 0
  | byte :: rest => byte.toNat + 256 * decode rest

example : encode 4 0x12345 = [0x45, 0x23, 0x01, 0x00] := by decide

@[simp]
theorem length_encode (count value : Nat) : (encode count value).length = count := by
  induction count generalizing value with
  | zero => rfl
  | succ count induction => simp [encode, induction]

@[simp]
theorem decode_encode (count value : Nat) :
    decode (encode count value) = value % Nat.pow 256 count := by
  induction count generalizing value with
  | zero => simp [encode, decode, Nat.mod_one]
  | succ count induction =>
    have split : Nat.pow 256 (count + 1) = 256 * Nat.pow 256 count := Nat.pow_succ'
    simp only [encode, decode, induction, UInt8.toNat_ofNat', Nat.reducePow]
    rw [split, Nat.mod_mul]

end SignalReplay.LittleEndian
