import Mathlib
import SignalReplay.Decimal.Binary64

/-!
Floating-point numbers as a sign and a magnitude pattern. Both fields together are the number, and
unpacking and packing are read off them: a pattern above that of infinity is no number, and a
finite pattern stands for its significand times a power of two.
-/

namespace SignalReplay.Binary64

open Float.Model Float.Model.UnpackedFloat

/-! ## Words -/

def word (negative : Bool) (bits : Nat) : Nat :=
  (if negative then signBit else 0) + bits

theorem toBits_eq_word (value : Float) :
    value.toBits.toNat = word (isNegative value) (magnitudeBits value) := by
  have bound : value.toBits.toNat < 2 ^ 64 := value.toBits.toNat_lt
  have sign : signBit = 2 ^ 63 := rfl
  have magnitude : magnitudeBits value = value.toBits.toNat % 2 ^ 63 := rfl
  unfold word isNegative
  by_cases negative : signBit ≤ value.toBits.toNat
  · rw [if_pos (by simpa using negative)]
    omega
  · rw [if_neg (by simpa using negative)]
    omega

theorem fields_of_toBits {value : Float} {negative : Bool} {bits : Nat} (small : bits < signBit)
    (equal : value.toBits.toNat = word negative bits) :
    isNegative value = negative ∧ magnitudeBits value = bits := by
  have sign : signBit = 2 ^ 63 := rfl
  have magnitude : magnitudeBits value = value.toBits.toNat % 2 ^ 63 := rfl
  rw [magnitude]
  unfold isNegative
  rw [equal]
  cases negative with
  | false =>
      simp only [word, Bool.false_eq_true, if_false, decide_eq_false_iff_not]
      omega
  | true =>
      simp only [word, if_true, decide_eq_true_eq]
      omega

theorem eq_of_toBits {left right : Float} (equal : left.toBits.toNat = right.toBits.toNat) :
    left = right := by
  have words := UInt64.toNat_inj.mp equal
  rcases left with ⟨⟨leftBits, _⟩⟩
  rcases right with ⟨⟨rightBits, _⟩⟩
  change leftBits = rightBits at words
  subst words
  rfl

theorem ext_fields {left right : Float} (signs : isNegative left = isNegative right)
    (magnitudes : magnitudeBits left = magnitudeBits right) : left = right := by
  apply eq_of_toBits
  rw [toBits_eq_word, toBits_eq_word, signs, magnitudes]

/-! ## Unpacking -/

theorem significand_pos {bits : Nat} (positive : 0 < bits) : 0 < significand bits := by
  unfold significand leadingBit
  split <;> omega

def signOf (negative : Bool) : Sign :=
  if negative then .negative else .positive

def unpacked (negative : Bool) (bits : Nat) : UnpackedFloat :=
  if infinityBits < bits then .notANumber
  else if bits = infinityBits then .infinity (signOf negative)
  else if positive : 0 < bits then
    .finite (signOf negative) (significand bits) (exponent bits) (significand_pos positive)
  else .zero (signOf negative)

theorem toNat_unpackMantissa (bits : BitVec Format.binary64.numBits) :
    (@unpackMantissa Format.binary64 bits).toNat = bits.toNat % 2 ^ 52 := by
  simp [unpackMantissa, BitVec.extractLsb, BitVec.extractLsb'_toNat]

theorem toNat_unpackExponent (bits : BitVec Format.binary64.numBits) :
    (@unpackExponent Format.binary64 bits).toNat = bits.toNat / 2 ^ 52 % 2 ^ 11 := by
  simp [unpackExponent, BitVec.extractLsb, BitVec.extractLsb'_toNat, Nat.shiftRight_eq_div_pow]

theorem toNat_unpackSign (bits : BitVec Format.binary64.numBits) :
    (@unpackSign Format.binary64 bits).toNat = bits.toNat / 2 ^ 63 % 2 := by
  simp [unpackSign, BitVec.extractLsb, BitVec.extractLsb'_toNat, Nat.shiftRight_eq_div_pow]

theorem ofBitVec_unpackSign (bits : BitVec Format.binary64.numBits) :
    Sign.ofBitVec (@unpackSign Format.binary64 bits) =
      signOf (signBit ≤ bits.toNat) := by
  have bound : bits.toNat < 2 ^ 64 := bits.isLt
  have field := toNat_unpackSign bits
  unfold Sign.ofBitVec signOf signBit
  simp only [← BitVec.toNat_inj, BitVec.toNat_ofNat, field, decide_eq_true_eq]
  by_cases negative : 0x8000000000000000 ≤ bits.toNat
  · rw [if_neg (by omega), if_pos negative]
  · rw [if_pos (by omega), if_neg negative]

theorem unpack_eq_unpacked (bits : BitVec Format.binary64.numBits) :
    UnpackedFloat.unpack Format.binary64 bits =
      unpacked (signBit ≤ bits.toNat) (bits.toNat % signBit) := by
  have mantissa := toNat_unpackMantissa bits
  have exponentField := toNat_unpackExponent bits
  have allOnes : @unpackExponent Format.binary64 bits = -1#_ ↔
      bits.toNat / 2 ^ 52 % 2 ^ 11 = 2047 := by
    rw [← exponentField, ← BitVec.toNat_inj]
    rfl
  have allZeros : @unpackExponent Format.binary64 bits = 0#_ ↔
      bits.toNat / 2 ^ 52 % 2 ^ 11 = 0 := by
    rw [← exponentField, ← BitVec.toNat_inj]
    rfl
  have empty : @unpackMantissa Format.binary64 bits = 0#_ ↔
      bits.toNat % 2 ^ 52 = 0 := by
    rw [← mantissa, ← BitVec.toNat_inj]
    rfl
  have leading : (1#1 ++ @unpackMantissa Format.binary64 bits).toNat =
      2 ^ 52 + bits.toNat % 2 ^ 52 := by
    rw [BitVec.toNat_append, mantissa, ← Nat.shiftLeft_add_eq_or_of_lt (Nat.mod_lt _ (by decide))]
    rfl
  unfold UnpackedFloat.unpack unpacked
  simp only [allOnes, allZeros, empty, ofBitVec_unpackSign, leading, mantissa, exponentField]
  have infinite : infinityBits = 2047 * 2 ^ 52 := rfl
  have magnitude : bits.toNat % signBit = bits.toNat % 2 ^ 63 := rfl
  generalize bits.toNat % signBit = magnitudeField at *
  generalize bits.toNat = whole at *
  by_cases special : whole / 2 ^ 52 % 2 ^ 11 = 2047
  · rw [if_pos special]
    by_cases plain : whole % 2 ^ 52 = 0
    · rw [if_pos plain, if_neg (by omega), if_pos (by omega)]
    · rw [if_neg plain, if_pos (by omega)]
  · rw [if_neg special]
    by_cases least : whole / 2 ^ 52 % 2 ^ 11 = 0
    · rw [if_pos least]
      by_cases zero : whole % 2 ^ 52 = 0
      · rw [dif_pos zero, if_neg (by omega), if_neg (by omega), dif_neg (by omega)]
      · rw [dif_neg zero, if_neg (by omega), if_neg (by omega), dif_pos (by omega)]
        congr 1
        · unfold significand leadingBit
          rw [if_pos (by omega)]
          omega
        · unfold exponent leadingBit
          change _ - (1023 + 52) + 1 = _
          omega
    · rw [if_neg least, if_neg (by omega), if_neg (by omega), dif_pos (by omega)]
      congr 1
      · unfold significand leadingBit
        rw [if_neg (by omega)]
        omega
      · unfold exponent leadingBit
        change _ - (1023 + 52) = _
        omega

/-! ## Packing -/

def isNegativeSign : Sign → Bool
  | .negative => true
  | .positive => false

@[simp]
theorem toNat_packComponents (sign : Sign) (exponentField : BitVec Format.binary64.exponentBits)
    (mantissa : BitVec Format.binary64.mantissaBitsWithoutImplicit) :
    (packComponents Format.binary64 sign exponentField mantissa).toNat =
      word (isNegativeSign sign) (exponentField.toNat * 2 ^ 52 + mantissa.toNat) := by
  have exponentBound : exponentField.toNat < 2 ^ 11 := exponentField.isLt
  have mantissaBound : mantissa.toNat < 2 ^ 52 := mantissa.isLt
  unfold packComponents
  rw [BitVec.toNat_append, BitVec.toNat_append,
    ← Nat.shiftLeft_add_eq_or_of_lt exponentField.isLt,
    ← Nat.shiftLeft_add_eq_or_of_lt mantissa.isLt]
  change (sign.toBitVec.toNat <<< 11 + exponentField.toNat) <<< 52 + mantissa.toNat = _
  cases sign with
  | positive => simp [Nat.shiftLeft_eq, Sign.toBitVec, word, isNegativeSign]
  | negative =>
      simp [Nat.shiftLeft_eq, Sign.toBitVec, word, isNegativeSign, signBit]
      omega

@[simp]
theorem toNat_pack_infinity (sign : Sign) :
    (UnpackedFloat.pack Format.binary64 (.infinity sign)).toNat =
      word (isNegativeSign sign) infinityBits := by
  cases sign <;> rfl

@[simp]
theorem toNat_pack_zero (sign : Sign) :
    (UnpackedFloat.pack Format.binary64 (.zero sign)).toNat = word (isNegativeSign sign) 0 := by
  cases sign <;> rfl

/-- A significand and an exponent that no shift of the significand would bring closer to the 53
digits of the format. -/
structure Canonical (mantissa : Nat) (exponent : Int) : Prop where
  mantissa_lt : mantissa < 2 ^ 53
  le_exponent : -1074 ≤ exponent
  full_or_least : 2 ^ 52 ≤ mantissa ∨ exponent = -1074

theorem toNat_pack_finite (sign : Sign) {mantissa : Nat} {exponent : Int}
    (positive : 0 < mantissa) (canonical : Canonical mantissa exponent) :
    (UnpackedFloat.pack Format.binary64 (.finite sign mantissa exponent positive)).toNat =
      word (isNegativeSign sign)
        (min ((exponent + 1074).toNat * leadingBit + mantissa) infinityBits) := by
  rcases canonical with ⟨mantissa_lt, le_exponent, full_or_least⟩
  have infinite : infinityBits = 2047 * 2 ^ 52 := rfl
  have leading : leadingBit = 2 ^ 52 := rfl
  have biased : (exponent + (Format.binary64.exponentBias : Int) +
      (Format.binary64.mantissaBitsWithoutImplicit : Int)).toNat = (exponent + 1075).toNat := by
    change (exponent + 1023 + 52).toNat = _
    omega
  unfold UnpackedFloat.pack
  dsimp only
  rw [biased]
  by_cases overflow : 2 ^ 11 ≤ (exponent + 1075).toNat + 1
  · rw [if_pos overflow]
    refine (toNat_pack_infinity sign).trans ?_
    congr 1
    rw [leading]
    omega
  · rw [if_neg overflow]
    by_cases full : 2 ^ 52 ≤ mantissa
    · have digits : mantissa.log2 = 52 := (Nat.log2_eq_iff (by omega)).mpr ⟨full, mantissa_lt⟩
      rw [if_pos (by rw [digits]; rfl), toNat_packComponents, BitVec.toNat_ofNat,
        BitVec.toNat_ofNat]
      congr 1
      change (exponent + 1075).toNat % 2 ^ 11 * 2 ^ 52 + mantissa % 2 ^ 52 = _
      rw [leading]
      omega
    · have digits : mantissa.log2 < 52 := (Nat.log2_lt (by omega)).mpr (by omega)
      rw [if_neg (by change ¬ mantissa.log2 + 1 = 53; omega), toNat_packComponents,
        BitVec.toNat_ofNat, BitVec.toNat_ofNat]
      congr 1
      change 0 % 2 ^ 11 * 2 ^ 52 + mantissa % 2 ^ 52 = _
      rw [leading]
      omega


theorem exponent_significand_eq {bits : Nat} :
    (exponent bits + 1074).toNat * leadingBit + significand bits = bits := by
  unfold exponent significand leadingBit
  split <;> omega

theorem canonical_fields {bits : Nat} : Canonical (significand bits) (exponent bits) := by
  unfold exponent significand leadingBit
  split <;> constructor <;> omega

@[simp]
theorem isNegativeSign_signOf (negative : Bool) : isNegativeSign (signOf negative) = negative := by
  cases negative <;> rfl

theorem toNat_pack_unpacked (negative : Bool) {bits : Nat} (defined : bits ≤ infinityBits) :
    (UnpackedFloat.pack Format.binary64 (unpacked negative bits)).toNat = word negative bits := by
  unfold unpacked
  rw [if_neg (by omega)]
  split
  · next infinite => rw [toNat_pack_infinity, isNegativeSign_signOf, infinite]
  · split
    · rw [toNat_pack_finite _ _ canonical_fields, isNegativeSign_signOf, exponent_significand_eq,
        Nat.min_eq_left defined]
    · next zero => rw [toNat_pack_zero, isNegativeSign_signOf, Nat.eq_zero_of_not_pos zero]

/-! ## Floats -/

theorem unpack_toModel (value : Float) :
    value.toModel.unpack = unpacked (isNegative value) (magnitudeBits value) :=
  unpack_eq_unpacked value.toModel.toBits.toBitVec

theorem toBits_pack (number : UnpackedFloat) :
    (Float.ofModel (Float.Model.pack number)).toBits.toNat =
      (UnpackedFloat.pack Format.binary64 number).toNat := rfl

theorem isNaN_eq (value : Float) : value.isNaN = decide (infinityBits < magnitudeBits value) := by
  change value.toModel.unpack.isNaN = _
  rw [unpack_toModel, unpacked]
  grind [UnpackedFloat.isNaN]

theorem isFinite_eq (value : Float) :
    value.isFinite = decide (magnitudeBits value < infinityBits) := by
  change value.toModel.unpack.isFinite = _
  rw [unpack_toModel, unpacked]
  grind [UnpackedFloat.isFinite]

/-- Undefined numbers share one word, whose sign bit is not set. -/
theorem toBits_of_isNaN {value : Float} (undefined : value.isNaN = true) :
    value.toBits.toNat = 0x7FF8000000000000 := by
  rw [isNaN_eq, decide_eq_true_eq] at undefined
  have magnitude : magnitudeBits value = value.toModel.toBits.toBitVec.toNat % 2 ^ 63 := rfl
  have infinite : infinityBits = 2047 * 2 ^ 52 := rfl
  have canonical : value.toModel.toBits.toBitVec = packedNaN Format.binary64 := by
    apply value.toModel.valid.eq_packedNaN
    · apply BitVec.eq_of_toNat_eq
      rw [toNat_unpackExponent]
      change _ = 2047
      omega
    · intro empty
      have mantissa := toNat_unpackMantissa value.toModel.toBits.toBitVec
      rw [empty] at mantissa
      change 0 = _ at mantissa
      omega
  change value.toModel.toBits.toBitVec.toNat = _
  rw [canonical]
  rfl

theorem fields_pack_unpacked (negative : Bool) {bits : Nat} (defined : bits ≤ infinityBits) :
    isNegative (Float.ofModel (Float.Model.pack (unpacked negative bits))) = negative ∧
      magnitudeBits (Float.ofModel (Float.Model.pack (unpacked negative bits))) = bits :=
  fields_of_toBits (Nat.lt_of_le_of_lt defined (by decide)) (toNat_pack_unpacked negative defined)

@[simp]
theorem neg_unpacked (negative : Bool) (bits : Nat) :
    (unpacked negative bits).neg = unpacked (!negative) bits := by
  have signs : -signOf negative = signOf (!negative) := by cases negative <;> rfl
  unfold unpacked
  grind [UnpackedFloat.neg]

theorem fields_neg {value : Float} (defined : value.isNaN = false) :
    isNegative (-value) = !isNegative value ∧ magnitudeBits (-value) = magnitudeBits value := by
  have unpackedNeg : -value = Float.ofModel (Float.Model.pack value.toModel.unpack.neg) := rfl
  rw [unpackedNeg, unpack_toModel, neg_unpacked]
  rw [isNaN_eq, decide_eq_false_iff_not, Nat.not_lt] at defined
  exact fields_pack_unpacked _ defined

theorem fields_ofBits {bits : Nat} (defined : bits ≤ infinityBits) :
    isNegative (Float.ofBits (UInt64.ofNat bits)) = false ∧
      magnitudeBits (Float.ofBits (UInt64.ofNat bits)) = bits := by
  have infinite : infinityBits = 2047 * 2 ^ 52 := rfl
  have sign : signBit = 2 ^ 63 := rfl
  have whole : (UInt64.ofNat bits).toBitVec.toNat = bits := by
    change bits % 2 ^ 64 = bits
    omega
  have packed : Float.ofBits (UInt64.ofNat bits) = Float.ofModel (Float.Model.pack
      (UnpackedFloat.unpack Format.binary64 (UInt64.ofNat bits).toBitVec)) := rfl
  rw [packed, unpack_eq_unpacked, whole, Nat.mod_eq_of_lt (by omega),
    decide_eq_false (by omega)]
  exact fields_pack_unpacked _ defined

theorem fields_ofMagnitude (negative : Bool) {bits : Nat} (defined : bits ≤ infinityBits) :
    isNegative (ofMagnitude negative bits) = negative ∧
      magnitudeBits (ofMagnitude negative bits) = bits := by
  have positive := fields_ofBits defined
  cases negative with
  | false => exact positive
  | true =>
      have number : (Float.ofBits (UInt64.ofNat bits)).isNaN = false := by
        rw [isNaN_eq, positive.2, decide_eq_false_iff_not]
        omega
      have negated := fields_neg number
      rw [positive.1, positive.2] at negated
      exact negated

theorem ofMagnitude_fields {value : Float} (defined : value.isNaN = false) :
    ofMagnitude (isNegative value) (magnitudeBits value) = value := by
  rw [isNaN_eq, decide_eq_false_iff_not, Nat.not_lt] at defined
  have fields := fields_ofMagnitude (isNegative value) defined
  exact ext_fields fields.1 fields.2

end SignalReplay.Binary64
