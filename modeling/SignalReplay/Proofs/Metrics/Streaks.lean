import Mathlib.Data.List.Infix
import Mathlib.Order.Bounds.Basic
import SignalReplay.Metrics.Corpus
import SignalReplay.Proofs.Metrics.Multiples

/-!
Streaks as longest runs. A run is a block of R-multiples that follow each other and all pass a test.
The longest run at the end and the longest run anywhere are all that has to be known of the
R-multiples so far to go on by one.
-/

namespace SignalReplay.Metrics

/-! ## Runs -/

/-- The lengths of the blocks of numbers that follow each other and all pass a test. -/
def runLengths (test : Float → Bool) (values : List Float) : Set ℕ :=
  {length | ∃ run, run <:+: values ∧ (∀ value ∈ run, test value = true) ∧ run.length = length}

def lastRunLengths (test : Float → Bool) (values : List Float) : Set ℕ :=
  {length | ∃ run, run <:+ values ∧ (∀ value ∈ run, test value = true) ∧ run.length = length}

variable {test : Float → Bool} {values earlier later : List Float}

theorem runLengths_mono (within : earlier <:+: later) :
    runLengths test earlier ⊆ runLengths test later := by
  rintro length ⟨run, inside, passes, rfl⟩
  exact ⟨run, inside.trans within, passes, rfl⟩

theorem exists_add_of_mem_runLengths {length : ℕ}
    (member : length ∈ runLengths test (earlier ++ later)) :
    ∃ first ∈ runLengths test earlier, ∃ second ∈ runLengths test later,
      length = first + second := by
  rcases member with ⟨run, inside, passes, rfl⟩
  have nothing (values : List Float) : 0 ∈ runLengths test values :=
    ⟨[], List.nil_infix, by simp, rfl⟩
  rcases List.infix_append_iff.mp inside with inEarlier | inLater | ⟨front, back, rfl, last, first⟩
  · exact ⟨run.length, ⟨run, inEarlier, passes, rfl⟩, 0, nothing later, rfl⟩
  · exact ⟨0, nothing earlier, run.length, ⟨run, inLater, passes, rfl⟩, (Nat.zero_add _).symm⟩
  · rw [List.forall_mem_append] at passes
    exact ⟨front.length, ⟨front, last.isInfix, passes.1, rfl⟩,
      back.length, ⟨back, first.isInfix, passes.2, rfl⟩, List.length_append⟩

theorem le_countP_of_mem_runLengths {length : ℕ} (member : length ∈ runLengths test values) :
    length ≤ values.countP test := by
  rcases member with ⟨run, inside, passes, rfl⟩
  calc run.length = run.countP test := (List.countP_eq_length.mpr passes).symm
    _ ≤ values.countP test := inside.sublist.countP_le

theorem one_mem_runLengths (counted : 0 < values.countP test) : 1 ∈ runLengths test values := by
  rcases List.countP_pos_iff.mp counted with ⟨value, member, passes⟩
  exact ⟨[value], (List.singleton_infix_iff value values).mpr member,
    fun _ only => List.mem_singleton.mp only ▸ passes, rfl⟩

/-! ## One number more -/

theorem mem_lastRunLengths_concat {value : Float} {length : ℕ} :
    length ∈ lastRunLengths test (values ++ [value]) ↔
      length = 0 ∨ test value = true ∧ ∃ before ∈ lastRunLengths test values,
        length = before + 1 := by
  constructor
  · rintro ⟨run, atEnd, passes, rfl⟩
    rcases List.suffix_concat_iff.mp atEnd with rfl | ⟨before, rfl, wasAtEnd⟩
    · exact .inl rfl
    · rw [List.forall_mem_append] at passes
      exact .inr ⟨passes.2 value List.mem_cons_self, before.length,
        ⟨before, wasAtEnd, passes.1, rfl⟩, List.length_append⟩
  · rintro (rfl | ⟨passes, _, ⟨run, atEnd, allPass, rfl⟩, rfl⟩)
    · exact ⟨[], List.nil_suffix, by simp, rfl⟩
    · refine ⟨run ++ [value], List.suffix_concat_iff.mpr (.inr ⟨run, rfl, atEnd⟩), ?_,
        List.length_append⟩
      rw [List.forall_mem_append]
      exact ⟨allPass, fun _ only => List.mem_singleton.mp only ▸ passes⟩

theorem runLengths_concat (value : Float) :
    runLengths test (values ++ [value]) =
      runLengths test values ∪ lastRunLengths test (values ++ [value]) := by
  ext length
  constructor
  · rintro ⟨run, inside, passes, rfl⟩
    rcases List.infix_concat_iff.mp inside with atEnd | before
    · exact .inr ⟨run, atEnd, passes, rfl⟩
    · exact .inl ⟨run, before, passes, rfl⟩
  · rintro (before | ⟨run, atEnd, passes, rfl⟩)
    · exact runLengths_mono (List.prefix_append values [value]).isInfix before
    · exact ⟨run, atEnd.isInfix, passes, rfl⟩

structure Runs (test : Float → Bool) (seen : List Float) (current longest : ℕ) : Prop where
  current : IsGreatest (lastRunLengths test seen) current
  longest : IsGreatest (runLengths test seen) longest

theorem runs_nil (test : Float → Bool) : Runs test [] 0 0 := by
  constructor
  · refine ⟨⟨[], List.nil_suffix, by simp, rfl⟩, ?_⟩
    rintro _ ⟨run, atEnd, _, rfl⟩
    exact atEnd.length_le
  · refine ⟨⟨[], List.nil_infix, by simp, rfl⟩, ?_⟩
    rintro _ ⟨run, inside, _, rfl⟩
    exact inside.length_le

theorem Runs.concat {seen : List Float} {current longest : ℕ}
    (runs : Runs test seen current longest) (value : Float) :
    Runs test (seen ++ [value]) (if test value = true then current + 1 else 0)
      (max longest (if test value = true then current + 1 else 0)) := by
  have last : IsGreatest (lastRunLengths test (seen ++ [value]))
      (if test value = true then current + 1 else 0) := by
    constructor
    · rw [mem_lastRunLengths_concat]
      split
      · next passes => exact .inr ⟨passes, current, runs.current.1, rfl⟩
      · exact .inl rfl
    · intro length member
      rcases mem_lastRunLengths_concat.mp member with rfl | ⟨passes, before, known, rfl⟩
      · exact Nat.zero_le _
      · rw [if_pos passes]
        exact Nat.succ_le_succ (runs.current.2 known)
  refine ⟨last, ?_⟩
  rw [runLengths_concat]
  exact runs.longest.union last

/-! ## Streaks -/

structure Streaks.Follows (streaks : Streaks) (seen : List Float) : Prop where
  gains : Runs (0 < ·) seen streaks.gains streaks.longestGains
  losses : Runs (· < 0) seen streaks.losses streaks.longestLosses

theorem Streaks.Follows.step {streaks : Streaks} {seen : List Float}
    (follows : streaks.Follows seen) (r : Float) : (streaks.step r).Follows (seen ++ [r]) := by
  have gains := follows.gains.concat r
  have losses := follows.losses.concat r
  simp only [decide_eq_true_eq] at gains losses
  exact ⟨gains, losses⟩

theorem Streaks.Follows.foldl {streaks : Streaks} {seen : List Float}
    (follows : streaks.Follows seen) (values : List Float) :
    (values.foldl Streaks.step streaks).Follows (seen ++ values) := by
  induction values generalizing streaks seen with
  | nil => rwa [List.append_nil]
  | cons r rest induction =>
      rw [List.foldl_cons, List.append_cons]
      exact induction (follows.step r)

theorem follows_streaks (outcomes : List Outcome) :
    (streaks outcomes).Follows (rMultiples outcomes) := by
  have start : Streaks.Follows {} [] := ⟨runs_nil _, runs_nil _⟩
  exact start.foldl (rMultiples outcomes)

/-- A figure that is the longest run of R-multiples that pass a test, and what follows for parts of
the outcomes and for the count of all that pass. -/
structure MeasuresRuns (test : Float → Bool) (streak count : List Outcome → ℕ) : Prop where
  longest : ∀ outcomes,
    IsGreatest (runLengths test ((outcomes.filterMap (·.rMultiple)).map (·.value)))
      (streak outcomes)
  max_le_append : ∀ earlier later,
    max (streak earlier) (streak later) ≤ streak (earlier ++ later)
  append_le_add : ∀ earlier later, streak (earlier ++ later) ≤ streak earlier + streak later
  le_count : ∀ outcomes, streak outcomes ≤ count outcomes
  one_le : ∀ outcomes, 0 < count outcomes → 1 ≤ streak outcomes

theorem measuresRuns_of_longest {streak : List Outcome → ℕ}
    (longest : ∀ outcomes, IsGreatest (runLengths test (rMultiples outcomes)) (streak outcomes)) :
    MeasuresRuns test streak fun outcomes => (rMultiples outcomes).countP test where
  longest outcomes := by simpa using longest outcomes
  max_le_append earlier later := by
    have together := (longest (earlier ++ later)).2
    rw [rMultiples_append] at together
    refine max_le (together ?_) (together ?_)
    · exact runLengths_mono (List.prefix_append _ _).isInfix (longest earlier).1
    · exact runLengths_mono (List.suffix_append _ _).isInfix (longest later).1
  append_le_add earlier later := by
    have attained := (longest (earlier ++ later)).1
    rw [rMultiples_append] at attained
    rcases exists_add_of_mem_runLengths attained with ⟨first, inEarlier, second, inLater, equal⟩
    rw [equal]
    exact Nat.add_le_add ((longest earlier).2 inEarlier) ((longest later).2 inLater)
  le_count outcomes := le_countP_of_mem_runLengths (longest outcomes).1
  one_le outcomes counted := (longest outcomes).2 (one_mem_runLengths counted)

/-- The streaks of gains and of losses are the longest runs above and below zero. A zero or an
undefined number is in neither, and an outcome without an R-multiple does not show. -/
theorem streaks_measure_runs (edges : HistogramEdges) :
    MeasuresRuns (0 < ·) maxWinStreak
        (fun outcomes => (CorpusMetrics.ofOutcomes edges outcomes).wins) ∧
      MeasuresRuns (· < 0) maxLossStreak
        (fun outcomes => (CorpusMetrics.ofOutcomes edges outcomes).losses) :=
  ⟨measuresRuns_of_longest fun outcomes => (follows_streaks outcomes).gains.longest,
    measuresRuns_of_longest fun outcomes => (follows_streaks outcomes).losses.longest⟩

theorem streaks_measure_runs_of_mixed :
    let outcome (r : Option Float) : Outcome :=
      ⟨"", .unknown, r.map .ofFloat, none, none, none, none⟩
    let outcomes := [some 1.0, none, some 2.0, some 0.0, some 3.0, some (-1.0), some 1.0].map outcome
    IsGreatest (runLengths (0 < ·) [1.0, 2.0, 0.0, 3.0, -1.0, 1.0]) 2 ∧
      IsGreatest (runLengths (· < 0) [1.0, 2.0, 0.0, 3.0, -1.0, 1.0]) 1 ∧
      maxWinStreak outcomes = 2 ∧ maxLossStreak outcomes = 1 := by
  intro outcome outcomes
  have values : (outcomes.filterMap (·.rMultiple)).map (·.value) =
      [1.0, 2.0, 0.0, 3.0, -1.0, 1.0] := by decide
  have gains : maxWinStreak outcomes = 2 := by decide
  have losses : maxLossStreak outcomes = 1 := by decide
  have longestGains := (streaks_measure_runs .standard).1.longest outcomes
  have longestLosses := (streaks_measure_runs .standard).2.longest outcomes
  rw [values, gains] at longestGains
  rw [values, losses] at longestLosses
  exact ⟨longestGains, longestLosses, gains, losses⟩

end SignalReplay.Metrics
