import SignalReplay.Proofs.Binary64.Arithmetic

/-!
Bounds that rounding respects. Between numbers that a float stands for, a result stays on the side
where the number lies that it was rounded from, and such numbers themselves come out unchanged.
-/

namespace SignalReplay.Binary64

/-! ## Order -/

theorem toRat_of_nonneg {value : Float} (unsigned : isNegative value = false) :
    toRat value = magnitude (magnitudeBits value) := by
  rw [toRat, unsigned]
  rfl

theorem toRat_of_neg {value : Float} (negative : isNegative value = true) :
    toRat value = -magnitude (magnitudeBits value) := by
  rw [toRat, negative]
  rfl

theorem magnitude_lt_iff {left right : ℕ} (leftFinite : left ≤ infinityBits)
    (rightFinite : right ≤ infinityBits) : magnitude left < magnitude right ↔ left < right := by
  constructor
  · intro lt
    rw [← not_le]
    intro le
    exact absurd (magnitude_le leftFinite le) lt.not_ge
  · exact magnitude_lt rightFinite

theorem toRat_lt_iff {left right : Float} (leftFinite : left.isFinite = true)
    (rightFinite : right.isFinite = true) :
    toRat left < toRat right ↔ orderKey left < orderKey right := by
  rw [isFinite_eq, decide_eq_true_eq] at leftFinite rightFinite
  have leftNonneg := magnitude_nonneg (magnitudeBits left)
  have rightNonneg := magnitude_nonneg (magnitudeBits right)
  have forwards := magnitude_lt_iff leftFinite.le rightFinite.le
  have backwards := magnitude_lt_iff rightFinite.le leftFinite.le
  have zero := magnitude_zero
  unfold orderKey toRat
  cases isNegative left <;> cases isNegative right <;>
    simp only [signed, signedBits, Bool.false_eq_true, if_false, if_true]
  · rw [forwards]
    omega
  · constructor
    · intro lt
      linarith
    · intro lt
      omega
  · rw [← not_le, ← not_le, not_iff_not]
    constructor
    · intro le
      have leftZero : magnitudeBits left = 0 := by
        by_contra nonzero
        have positive := magnitude_pos (Nat.pos_of_ne_zero nonzero)
        linarith
      have rightZero : magnitudeBits right = 0 := by
        by_contra nonzero
        have positive := magnitude_pos (Nat.pos_of_ne_zero nonzero)
        linarith
      omega
    · intro le
      rw [show magnitudeBits left = 0 by omega, show magnitudeBits right = 0 by omega, zero]
      norm_num
  · rw [neg_lt_neg_iff, backwards]
    omega

variable {left right : Float}

theorem lt_iff_toRat (leftFinite : left.isFinite = true) (rightFinite : right.isFinite = true) :
    left < right ↔ toRat left < toRat right := by
  rw [lt_iff, toRat_lt_iff leftFinite rightFinite]
  exact ⟨fun less => less.2.2,
    fun less => ⟨isNaN_of_isFinite leftFinite, isNaN_of_isFinite rightFinite, less⟩⟩

theorem le_iff_toRat (leftFinite : left.isFinite = true) (rightFinite : right.isFinite = true) :
    left ≤ right ↔ toRat left ≤ toRat right := by
  rw [le_iff, ← not_lt, ← toRat_lt_iff rightFinite leftFinite, not_lt]
  exact ⟨fun le => le.2.2,
    fun le => ⟨isNaN_of_isFinite leftFinite, isNaN_of_isFinite rightFinite, le⟩⟩

/-! ## Numbers that a float stands for -/

def Representable (x : ℚ) : Prop :=
  ∃ bits < infinityBits, magnitude bits = |x|

theorem representable_digits {whole : ℕ} {power : ℤ} (short : whole < 2 ^ 53)
    (least : -1074 ≤ power) (greatest : power ≤ 971) : Representable (whole * 2 ^ power) := by
  rcases rounds_exact short least greatest with ⟨bits, finite, _, equal⟩
  refine ⟨bits, finite, ?_⟩
  rw [equal, abs_of_nonneg (mul_nonneg (Nat.cast_nonneg _) (two_zpow_pos _).le)]

theorem representable_natCast {whole : ℕ} (short : whole < 2 ^ 53) :
    Representable (whole : ℚ) := by
  have representable : Representable (whole * 2 ^ (0 : ℤ)) :=
    representable_digits short (by decide) (by decide)
  rwa [zpow_zero, mul_one] at representable

theorem representable_two_zpow {power : ℤ} (least : -1074 ≤ power) (greatest : power ≤ 971) :
    Representable (2 ^ power) := by
  have representable : Representable ((1 : ℕ) * 2 ^ power) :=
    representable_digits (by decide) least greatest
  rwa [Nat.cast_one, one_mul] at representable

namespace IsRounded

variable {x bound : ℚ} {value : Float}

theorem toRat_nonneg (rounded : IsRounded x value) (nonnegative : 0 ≤ x) : 0 ≤ toRat value := by
  rcases eq_or_lt_of_le nonnegative with rfl | positive
  · have zero := rounded.rounds
    rw [abs_zero] at zero
    rw [toRat_zero (zero.unique rounds_zero)]
  · have sign := rounded.sign positive.ne'
    rw [decide_eq_false positive.le.not_gt] at sign
    rw [toRat_of_nonneg sign]
    exact magnitude_nonneg _

theorem toRat_nonpos (rounded : IsRounded x value) (nonpositive : x ≤ 0) : toRat value ≤ 0 := by
  rcases eq_or_lt_of_le nonpositive with rfl | negative
  · have zero := rounded.rounds
    rw [abs_zero] at zero
    rw [toRat_zero (zero.unique rounds_zero)]
  · have sign := rounded.sign negative.ne
    rw [decide_eq_true negative] at sign
    rw [toRat_of_neg sign]
    exact neg_nonpos.mpr (magnitude_nonneg _)

theorem abs_le (rounded : IsRounded x value) (representable : Representable bound)
    (le : |x| ≤ |bound|) : value.isFinite = true ∧ |toRat value| ≤ |bound| := by
  rcases representable with ⟨bits, finite, equal⟩
  rw [← equal] at le ⊢
  have below := rounded.rounds.mono (rounds_magnitude finite.le) le
  rw [isFinite_eq, decide_eq_true_eq, abs_toRat]
  exact ⟨lt_of_le_of_lt below finite, magnitude_le finite.le below⟩

theorem le_abs (rounded : IsRounded x value) (finite : value.isFinite = true)
    (representable : Representable bound) (le : |bound| ≤ |x|) : |bound| ≤ |toRat value| := by
  rcases representable with ⟨bits, boundFinite, equal⟩
  rw [isFinite_eq, decide_eq_true_eq] at finite
  rw [← equal] at le ⊢
  have below := (rounds_magnitude boundFinite.le).mono rounded.rounds le
  rw [abs_toRat]
  exact magnitude_le finite.le below

theorem exact (rounded : IsRounded x value) (representable : Representable x) :
    value.isFinite = true ∧ toRat value = x := by
  rcases rounded.abs_le representable le_rfl with ⟨finite, above⟩
  have below := rounded.le_abs finite representable le_rfl
  refine ⟨finite, ?_⟩
  have equal : |toRat value| = |x| := le_antisymm above below
  rcases le_total 0 x with nonnegative | nonpositive
  · rwa [abs_of_nonneg (rounded.toRat_nonneg nonnegative), abs_of_nonneg nonnegative] at equal
  · rwa [abs_of_nonpos (rounded.toRat_nonpos nonpositive), abs_of_nonpos nonpositive,
      neg_inj] at equal

end IsRounded

/-! ## Whole numbers -/

theorem toRat_one : (Float.ofBits 0x3FF0000000000000).isFinite = true ∧
    toRat (Float.ofBits 0x3FF0000000000000) = 1 := by
  have fields : isNegative (Float.ofBits 0x3FF0000000000000) = false ∧
      magnitudeBits (Float.ofBits 0x3FF0000000000000) = 0x3FF0000000000000 := by decide
  refine ⟨by decide, ?_⟩
  rw [toRat_of_nonneg fields.1, fields.2]
  norm_num [magnitude, significand, exponent, leadingBit]

theorem isRounded_toFloat {whole : ℕ} (short : whole < 2 ^ 64) :
    IsRounded whole whole.toUInt64.toFloat := by
  have rounded := isRounded_normalize whole 0
  rw [zpow_zero, mul_one, Int.cast_natCast] at rounded
  have word : whole.toUInt64.toNat = whole := Nat.mod_eq_of_lt short
  have model : whole.toUInt64.toFloat = Float.ofModel (Float.Model.pack
      (Float.Model.UnpackedFloat.normalize Float.Model.Format.binary64
        (whole.toUInt64.toNat : ℤ) 0 .positive)) := rfl
  rwa [model, word]

theorem isRounded_ofNat (whole : ℕ) : IsRounded whole (Float.ofNat whole) := by
  change IsRounded whole (Float.ofScientific whole false 0)
  unfold Float.ofScientific
  by_cases short : whole < 2 ^ 53
  · have converted := (isRounded_toFloat (short.trans (by decide))).exact
      (representable_natCast short)
    have product := isRounded_mul converted.1 toRat_one.1
    rw [converted.2, toRat_one.2, mul_one] at product
    rw [dif_pos ⟨short, Nat.zero_le _⟩]
    exact product
  · have long : 2 ^ 53 ≤ whole := Nat.not_lt.mp short
    have digits : 106 ≤ (whole <<< 53 * 1).log2 := by
      apply le_log2
      rw [Nat.shiftLeft_eq, Nat.mul_one]
      exact Nat.mul_le_mul_right (2 ^ 53) long
    have reaches : (-53 + 0 : ℤ) ≤
        max (Float.Model.totalExponent (whole <<< 53 * 1) (-53 + 0) - 53) (-1074) := by
      rw [Float.Model.totalExponent]
      omega
    have fields := fields_roundWithAccuracy .positive
      (show Truncates (.ofMantissaAndAccuracy (whole <<< 53 * 1) .exact)
        ((whole <<< 53 * 1 : ℕ) : ℚ) from .exact rfl) reaches
    have value : ((whole <<< 53 * 1 : ℕ) : ℚ) * 2 ^ (-53 + 0 : ℤ) = whole := by
      rw [Nat.shiftLeft_eq, Nat.mul_one, Nat.cast_mul, Nat.cast_pow, Nat.cast_ofNat, mul_assoc,
        ← zpow_natCast, ← two_zpow_add]
      norm_num
    have scientific : Float.Model.UnpackedFloat.ofScientific Float.Model.Format.binary64 whole 0 =
        Float.Model.UnpackedFloat.roundWithAccuracy Float.Model.Format.binary64 .positive
          (whole <<< 53 * 1) (-53 + 0) .exact := by
      have positive : (0 : ℤ) < 2 ^ Float.Model.Format.binary64.exponentBits := by decide
      unfold Float.Model.UnpackedFloat.ofScientific
      rw [dif_neg (by omega), if_neg (by omega), if_neg (by omega), if_pos le_rfl]
      rfl
    rw [value] at fields
    rw [dif_neg (fun both => short both.1)]
    change IsRounded whole (Float.ofModel (Float.Model.pack
      (Float.Model.UnpackedFloat.ofScientific Float.Model.Format.binary64 whole 0)))
    rw [scientific]
    exact IsRounded.of_fields (Nat.cast_nonneg _) fields

end SignalReplay.Binary64
