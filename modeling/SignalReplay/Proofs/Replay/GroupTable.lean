import SignalReplay.Proofs.Decimal.Fixed
import SignalReplay.Proofs.Replay.Namesakes
import SignalReplay.Proofs.Replay.Tables

/-!
The group table of a report. The texts of a key stand in its cells as the signals gave them, so the
table has a line for each group and a cell for each column exactly if none of these texts holds a
line feed or a bar.
-/

namespace SignalReplay

open Decimal Markdown

/-! ## Cells -/

namespace Markdown

instance (text : String) : Decidable (IsPlain text) :=
  inferInstanceAs (Decidable ('\n' ∉ text.toList ∧ '|' ∉ text.toList))

theorem isPlain_of_all {text : String} (all : text.toList.all isFigureCharacter = true) :
    IsPlain text := by
  rw [List.all_eq_true] at all
  constructor
  · intro member
    exact absurd (all _ member) (by decide)
  · intro member
    exact absurd (all _ member) (by decide)

theorem isPlain_count (count : ℕ) : IsPlain (toString count) := by
  apply isPlain_of_all
  have digits : (toString count).toList = Nat.toDigits 10 count := by
    rw [← Nat.toList_repr]
    rfl
  rw [digits]
  exact all_of_allDigits (allDigits_toDigits count)

theorem isPlain_fixed (places : ℕ) (value : Float) : IsPlain (fixed places value) :=
  isPlain_of_all (all_fixed places value)

end Markdown

namespace GroupKey

def texts (key : GroupKey) : List String :=
  [key.symbol, key.timeframe] ++ key.session.toList ++ key.kind.toList

def IsPlain (key : GroupKey) : Prop :=
  ∀ text ∈ key.texts, Markdown.IsPlain text

theorem isPlain_shown_iff {text : Option String} :
    Markdown.IsPlain (shown text) ↔ ∀ given ∈ text.toList, Markdown.IsPlain given := by
  cases text with
  | none => exact iff_of_true (by decide) (by simp)
  | some text => simp [shown]

end GroupKey

namespace GroupRow

theorem length_of_mem_cells {rows : List GroupRow} :
    ∀ cells ∈ rows.map GroupRow.cells, cells.length = headings.length := by
  rw [List.forall_mem_map]
  intro row _
  rfl

/-- Directions and figures never hold a line feed or a bar, so it is up to the key. -/
theorem plain_cells_iff {row : GroupRow} :
    (∀ text ∈ row.cells, IsPlain text) ↔ row.key.IsPlain := by
  have direction : IsPlain row.key.direction.text := by
    cases row.key.direction <;> decide
  simp only [cells, percentText, figureText, List.forall_mem_cons, GroupKey.isPlain_shown_iff,
    direction, isPlain_count, isPlain_fixed, GroupKey.IsPlain, GroupKey.texts,
    List.forall_mem_append, List.not_mem_nil, false_imp_iff, implies_true, and_true, and_assoc]

end GroupRow

/-! ## The table -/

namespace Replay

variable {replay : Replay} {body : List Char}

/-- The text below the line of alignments in the group table. What stands above the table does not
depend on the groups, and a report without groups shows it in front of its last line. -/
def IsGroupBody (replay : Replay) (body : List Char) : Prop :=
  ∃ above : List Char,
    ({ replay with report := { replay.report with groups := [] } } : Replay).markdown.toList =
      above ++ "_No signals._\n".toList ∧
    replay.markdown.toList = above ++ (line (cells GroupRow.headings)).toList ++
      (line (cells GroupRow.alignments)).toList ++ body

theorem isGroupBody_iff (hasGroups : replay.report.groups ≠ []) :
    replay.IsGroupBody body ↔ body = rowsText (replay.report.groups.map GroupRow.cells) := by
  have parts : ∃ above : String,
      ({ replay with report := { replay.report with groups := [] } } : Replay).markdown =
        above ++ groupTable [] ∧
      replay.markdown = above ++ groupTable replay.report.groups := ⟨_, rfl, rfl⟩
  rcases parts with ⟨above, without, within⟩
  have table : (groupTable replay.report.groups).toList =
      (line (cells GroupRow.headings)).toList ++ (line (cells GroupRow.alignments)).toList ++
        rowsText (replay.report.groups.map GroupRow.cells) := by
    rw [groupTable, if_neg (by rwa [List.isEmpty_iff]), toList_table]
    simp [rowsText]
  rw [IsGroupBody, without, within, String.toList_append, String.toList_append, table]
  constructor
  · rintro ⟨other, same, equal⟩
    rw [← List.append_cancel_right same, ← List.append_assoc, ← List.append_assoc] at equal
    exact (List.append_cancel_left equal).symm
  · rintro rfl
    exact ⟨above.toList, rfl, by simp only [List.append_assoc]⟩

theorem plain_of_hasShape_groups (hasGroups : replay.report.groups ≠ [])
    (isBody : replay.IsGroupBody body)
    (shape : HasShape body replay.report.groups.length GroupRow.headings.length) :
    ∀ row ∈ replay.report.groups, row.key.IsPlain := by
  rw [(isGroupBody_iff hasGroups).mp isBody, ← List.length_map] at shape
  have plain := plain_of_hasShape (by decide) GroupRow.length_of_mem_cells shape
  intro row found
  exact GroupRow.plain_cells_iff.mp (plain _ (List.mem_map_of_mem found))

theorem showsRows_of_plain_groups (hasGroups : replay.report.groups ≠ [])
    (isBody : replay.IsGroupBody body) (plain : ∀ row ∈ replay.report.groups, row.key.IsPlain) :
    ShowsRows body (replay.report.groups.map GroupRow.cells) := by
  rw [(isGroupBody_iff hasGroups).mp isBody]
  apply showsRows_of_plain
  · rw [List.forall_mem_map]
    exact fun row _ => List.cons_ne_nil _ _
  · rw [List.forall_mem_map]
    exact fun row found => GroupRow.plain_cells_iff.mpr (plain row found)

theorem hasShape_of_showsRows_groups
    (faithful : ShowsRows body (replay.report.groups.map GroupRow.cells)) :
    HasShape body replay.report.groups.length GroupRow.headings.length := by
  have shape := faithful.hasShape GroupRow.length_of_mem_cells
  rwa [List.length_map] at shape

/-- Below the alignments of the group table stands one text. It has a line for each group, in their
order and with the cells of the group, exactly if no text of a key holds a line feed or a bar.
Otherwise the count of lines or the count of cells is wrong already. -/
theorem groupTable_faithful_iff (replay : Replay) (hasGroups : replay.report.groups ≠ []) :
    ∃ body, (∀ other, replay.IsGroupBody other ↔ other = body) ∧
      (ShowsRows body (replay.report.groups.map GroupRow.cells) ↔
        ∀ row ∈ replay.report.groups, row.key.IsPlain) ∧
      (HasShape body replay.report.groups.length GroupRow.headings.length ↔
        ∀ row ∈ replay.report.groups, row.key.IsPlain) := by
  refine ⟨_, fun other => isGroupBody_iff hasGroups, ?_⟩
  have isBody := (isGroupBody_iff hasGroups).mpr rfl
  have shown := showsRows_of_plain_groups hasGroups isBody
  have plain := plain_of_hasShape_groups hasGroups isBody
  exact ⟨⟨fun faithful => plain (hasShape_of_showsRows_groups faithful), shown⟩,
    ⟨plain, fun allPlain => hasShape_of_showsRows_groups (shown allPlain)⟩⟩

def twoGroups : Replay :=
  let metrics := CorpusMetrics.ofOutcomes .standard []
  { version := currentVersion
    fingerprint := "00"
    tieBreak := .loss
    candleCount := 1
    signalCount := 0
    report := ⟨metrics, [⟨⟨"EUR/USD", "M5", none, some "breakout", .long⟩, metrics⟩,
      ⟨⟨"EUR/USD", "", some "Asia, London", none, .short⟩, metrics⟩]⟩
    outcomes := [] }

theorem groupTable_faithful_on_twoGroups :
    twoGroups.report.groups ≠ [] ∧ (∀ row ∈ twoGroups.report.groups, row.key.IsPlain) ∧
      ∃ body, twoGroups.IsGroupBody body ∧
        ShowsRows body (twoGroups.report.groups.map GroupRow.cells) := by
  have hasGroups : twoGroups.report.groups ≠ [] := List.cons_ne_nil _ _
  have plain : ∀ row ∈ twoGroups.report.groups, row.key.IsPlain := by
    simp only [twoGroups, List.forall_mem_cons, GroupKey.IsPlain, GroupKey.texts]
    decide
  rcases groupTable_faithful_iff twoGroups hasGroups with ⟨body, isBody, shown, _⟩
  exact ⟨hasGroups, plain, body, (isBody body).mpr rfl, shown.mpr plain⟩

/-- A signal with that symbol is read and replayed, and its group is not shown on one line with a
cell for each column. -/
def BreaksTable (symbol : String) : Prop :=
  ∃ signals replay,
    SignalLines.read Timestamp.standardPattern "signals.jsonl" (lineTrading symbol) = .ok signals ∧
      (∀ pools, run pools {} (.ofList []) signals = .ok replay) ∧
      replay.report.groups.length = 1 ∧
      ∀ body, replay.IsGroupBody body → ¬ HasShape body 1 GroupRow.headings.length

theorem breaksTable_of_marked {written : String} (symbol : String) (marked : ¬ IsPlain symbol)
    (loaded : (SignalLines.signals Timestamp.standardPattern 1
      (Text.lines (lineTrading written))).toOption.map (·.map GroupKey.ofSignal) =
        some [groupTrading symbol]) : BreaksTable written := by
  rcases SignalLines.exists_read_singleton loaded with ⟨signal, read, group⟩
  have valid : ({} : Configuration).check = .ok () := by rfl
  rcases settings_of_check valid with ⟨⟨tieBreak, tieBreakRead⟩, edges, edgesRead⟩
  have filed := filedBy_namesakes (.ofList []) [signal] tieBreak edges
  have alone : signal.namesake [signal] = signal :=
    namesake_of_nodup (by simp) (List.mem_singleton_self signal)
  have keys : ((ofData (.ofList []) [signal] tieBreak edges).report.groups.map (·.key)).Perm
      [groupTrading symbol] := by
    refine (List.perm_ext_iff_of_nodup filed.keys_nodup (List.nodup_singleton _)).mpr fun key => ?_
    rw [filed.mem_keys]
    simp [alone, group, eq_comm]
  have one := keys.length_eq
  rw [List.length_map, List.length_singleton] at one
  refine ⟨[signal], _, read, fun _ => run_eq tieBreakRead edgesRead (.inl rfl) _ _, one,
    fun body isBody shape => ?_⟩
  rcases List.mem_map.mp (keys.mem_iff.mpr (List.mem_singleton_self _)) with ⟨row, found, key⟩
  rw [← one] at shape
  have plain := plain_of_hasShape_groups (List.ne_nil_of_mem found) isBody shape row found
  rw [key] at plain
  exact marked (plain symbol (by simp [GroupKey.texts, groupTrading]))

theorem groupTable_broken_by_symbols : BreaksTable "EUR|USD" ∧ BreaksTable "EUR\\nUSD" :=
  ⟨breaksTable_of_marked "EUR|USD" (by decide) (by decide +kernel),
    breaksTable_of_marked "EUR\nUSD" (by decide) (by decide +kernel)⟩

end Replay

end SignalReplay
