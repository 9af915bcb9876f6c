import SignalReplay.Metrics.Corpus
import SignalReplay.Proofs.Tagging.Prices

/-!
Figures of limited size. If the numbers of outcomes are neither too great nor too small, so are the
figures about them, however many outcomes there are that can be counted.
-/

namespace SignalReplay

open Binary64

namespace Metrics

variable {values : List Float} {power : ℤ} {count : ℕ}

/-! ## Sums and means -/

theorem within_zero (power : ℤ) : Within power 0.0 ∧ Within power (-0.0) := by
  have first : toRat 0.0 = 0 := toRat_zero (by decide)
  have second : toRat (-0.0) = 0 := toRat_zero (by decide)
  refine ⟨⟨by decide, ?_⟩, ⟨by decide, ?_⟩⟩
  · rw [first, abs_zero]
    exact (two_zpow_pos power).le
  · rw [second, abs_zero]
    exact (two_zpow_pos power).le

theorem within_sum (each : ∀ value ∈ values, Within power value) (least : 0 ≤ power)
    (greatest : power ≤ 917) : Within (54 + power) (sum values) :=
  Within.foldl_add each (within_zero _).2 (by omega) greatest

theorem ofSize_ofNat (positive : 0 < count) (fits : count < 2 ^ 64) :
    OfSize 64 (Float.ofNat count) ∧ toRat (Float.ofNat count) ≠ 0 := by
  have rounded := isRounded_ofNat count
  have atLeastOne : (1 : ℚ) ≤ count := by exact_mod_cast positive
  have distance : |(count : ℚ)| = count := abs_of_nonneg (by linarith)
  have size : OfSize 64 (Float.ofNat count) := by
    apply rounded.ofSize
    · rw [distance]
      exact_mod_cast fits.le
    · intro _
      rw [distance]
      exact le_trans (by norm_num) atLeastOne
    · decide
    · decide
  have above : (2 : ℚ) ^ (0 : ℤ) ≤ |(count : ℚ)| := by
    rw [distance, zpow_zero]
    exact atLeastOne
  exact ⟨size, (rounded.toRat_pos size.finite (by linarith) (by decide) (by decide) above).ne'⟩

theorem within_div_ofNat {total : Float} (within : Within power total) (least : 0 ≤ power)
    (greatest : power ≤ 900) (positive : 0 < count) (fits : count < 2 ^ 64) :
    Within (power + 64) (total / Float.ofNat count) := by
  rcases ofSize_ofNat positive fits with ⟨size, nonzero⟩
  exact within.div size nonzero (by omega) (by omega)

theorem length_pos_of_isEmpty (nonempty : ¬ values.isEmpty = true) : 0 < values.length := by
  rw [List.isEmpty_iff] at nonempty
  exact List.length_pos_iff.mpr nonempty

theorem within_mean (each : ∀ value ∈ values, Within 304 value) (fits : values.length < 2 ^ 64) :
    Within 422 (mean values) := by
  unfold mean
  split
  · exact (within_zero _).1
  · next nonempty =>
      exact within_div_ofNat (within_sum each (by decide) (by decide)) (by decide) (by decide)
        (length_pos_of_isEmpty nonempty) fits

theorem within_meanPresent (each : ∀ value ∈ values, Within 304 value)
    (fits : values.length < 2 ^ 64) {found : Float} (present : meanPresent values = some found) :
    Within 422 found := by
  unfold meanPresent at present
  split at present
  · cases present
  · next nonempty =>
      rw [← Option.some.inj present]
      have total : Within (54 + 304) (values.foldl (· + ·) 0.0) :=
        Within.foldl_add each (within_zero _).1 (by decide) (by decide)
      exact within_div_ofNat total (by decide) (by decide) (length_pos_of_isEmpty nonempty) fits

theorem within_rate {part whole : ℕ} (partFits : part < 2 ^ 64) (wholeFits : whole < 2 ^ 64) :
    Within 128 (rate part whole) := by
  unfold rate
  split
  · exact (within_zero _).1
  · next nonzero =>
      have parts : Within 64 (Float.ofNat part) := by
        rcases Nat.eq_zero_or_pos part with rfl | positive
        · have small : |((0 : ℕ) : ℚ)| ≤ 2 ^ (64 : ℤ) := by
            rw [Nat.cast_zero, abs_zero]
            exact (two_zpow_pos _).le
          exact (isRounded_ofNat 0).within small (by decide) (by decide)
        · exact (ofSize_ofNat positive partFits).1.toWithin
      exact within_div_ofNat parts (by decide) (by decide) (Nat.pos_of_ne_zero nonzero) wholeFits

/-! ## Gains over losses -/

theorem within_profitFactor {outcomes : List Outcome}
    (each : ∀ value ∈ rMultiples outcomes, OfSize 304 value) :
    Within 716 (profitFactor outcomes) := by
  have gains : Within (54 + 304) (sum ((rMultiples outcomes).filter fun r => 0 < r)) := by
    apply within_sum _ (by decide) (by decide)
    intro value member
    exact (each value (List.mem_of_mem_filter member)).toWithin
  have losses : OfSize (54 + 304) (sum (((rMultiples outcomes).filter fun r => r < 0).map (-·))) := by
    apply OfSize.foldl_add
    · intro value member
      rcases List.mem_map.mp member with ⟨loss, kept, rfl⟩
      rcases List.mem_filter.mp kept with ⟨inMultiples, negative⟩
      have size := each loss inMultiples
      refine ⟨size.neg, ?_⟩
      rw [decide_eq_true_eq, neg_iff_toRat size.finite] at negative
      rw [(toRat_neg size.finite).2]
      linarith
    · have zero : toRat (-0.0) = 0 := toRat_zero (by decide)
      exact ⟨⟨(within_zero _).2, fun nonzero => absurd zero nonzero⟩, zero.ge⟩
    · decide
    · decide
  unfold profitFactor
  dsimp only
  split
  · exact (within_zero _).1
  · next nonzero =>
      exact gains.div losses (mt (toRat_eq_zero_iff losses.finite).mp nonzero) (by decide)
        (by decide)

/-! ## Drawdown -/

/-- The running sum stays within one bound, and so do its peak and the falls below that. -/
structure IsBounded (curve : Curve) : Prop where
  total : Within 358 curve.total
  peak : Within 358 curve.peak
  drawdown : Within 359 curve.drawdown

theorem isBounded_step {curve : Curve} {r : Float} (bounded : IsBounded curve)
    (within : Within 304 r) : IsBounded (curve.step r) := by
  have total : Within 358 (curve.total + r) :=
    Within.add bounded.total within (by decide) (by decide)
  have peak : Within 358 (if curve.peak < curve.total + r then curve.total + r else curve.peak) :=
    total.ite bounded.peak
  have fall := peak.sub total (by decide) (by decide)
  exact ⟨total, peak, fall.ite bounded.drawdown⟩

theorem within_maxDrawdown {outcomes : List Outcome}
    (each : ∀ value ∈ rMultiples outcomes, Within 304 value) :
    Within 359 (maxDrawdown outcomes) := by
  have fold {values : List Float} {curve : Curve} (each : ∀ value ∈ values, Within 304 value)
      (start : IsBounded curve) : IsBounded (values.foldl Curve.step curve) := by
    induction values generalizing curve with
    | nil => exact start
    | cons first rest induction =>
        rcases List.forall_mem_cons.mp each with ⟨within, later⟩
        exact induction later (isBounded_step start within)
  have start : IsBounded {} := ⟨(within_zero _).1, (within_zero _).1, (within_zero _).1⟩
  exact (fold each start).drawdown

/-! ## Extremes -/

theorem greater_eq_or (left right : Float) :
    greater left right = left ∨ greater left right = right := by
  unfold greater
  split_ifs <;> simp

theorem lesser_eq_or (left right : Float) :
    lesser left right = left ∨ lesser left right = right := by
  unfold lesser
  split_ifs <;> simp

theorem mem_of_combine? {choose : Float → Float → Float}
    (chooses : ∀ left right, choose left right = left ∨ choose left right = right) {found : Float}
    (combined : combine? choose values = some found) : found ∈ values := by
  cases values with
  | nil => cases combined
  | cons first rest =>
      rw [← Option.some.inj combined]
      clear combined
      induction rest generalizing first with
      | nil => exact List.mem_singleton_self first
      | cons second rest induction =>
          rw [List.foldl_cons]
          rcases List.mem_cons.mp (induction (choose first second)) with front | later
          · rw [front]
            rcases chooses first second with equal | equal
            · rw [equal]
              exact List.mem_cons_self
            · rw [equal]
              exact List.mem_cons_of_mem _ List.mem_cons_self
          · exact List.mem_cons_of_mem _ (List.mem_cons_of_mem _ later)

end Metrics

end SignalReplay
