import Mathlib.Data.List.Forall2
import SignalReplay.Proofs.Text.Lines
import SignalReplay.Proofs.Text.Pieces
import SignalReplay.Replay.Markdown

/-!
Markdown tables as texts. A cell is written as it is, so that a table is cut into its rows and cells
again exactly if no cell holds a line feed or a bar.
-/

namespace SignalReplay.Markdown

variable {text : List Char} {row : List String} {rows : List (List String)} {columns : ℕ}

/-! ## Texts -/

@[simp]
theorem toList_line (content : String) : (line content).toList = content.toList ++ ['\n'] := by
  rw [line, String.toList_append]
  rfl

def rowsText (rows : List (List String)) : List Char :=
  (rows.map fun row => (cells row).toList).flatMap (· ++ ['\n'])

@[simp]
theorem toList_table (headings alignments : List String) (rows : List (List String)) :
    (table headings alignments rows).toList = rowsText (headings :: alignments :: rows) := by
  rw [table, Text.toList_intercalate_empty, List.flatMap_map, rowsText, List.flatMap_map]
  simp

@[simp]
theorem rowsText_append (earlier later : List (List String)) :
    rowsText (earlier ++ later) = rowsText earlier ++ rowsText later := by
  rw [rowsText, List.map_append, List.flatMap_append]
  rfl

def padded (text : String) : List Char :=
  ' ' :: (text.toList ++ [' '])

theorem toList_cells (notEmpty : row ≠ []) :
    (cells row).toList = ([] :: row.map padded).flatMap (· ++ ['|']) := by
  rcases List.exists_cons_of_ne_nil notEmpty with ⟨first, rest, rfl⟩
  have tail : (rest.flatMap fun text => " | ".toList ++ text.toList) ++ " |".toList =
      [' ', '|'] ++ (rest.map padded).flatMap (· ++ ['|']) := by
    clear notEmpty
    induction rest with
    | nil => rfl
    | cons second rest induction =>
        rw [List.flatMap_cons, List.append_assoc, induction, List.map_cons, List.flatMap_cons,
          padded]
        simp
  rw [cells, String.toList_append, String.toList_append, Text.toList_intercalate_cons,
    List.append_assoc, List.append_assoc, tail, List.map_cons, List.flatMap_cons, List.flatMap_cons,
    padded]
  simp

/-- A line holds the texts of a row, each between blanks, with bars around them. -/
def HasRow (text : List Char) (row : List String) : Prop :=
  ∃ before after, text =
    before ++ '\n' :: '|' :: ((row.flatMap fun text => padded text ++ ['|']) ++ '\n' :: after)

theorem HasRow.after (has : HasRow text row) (front : List Char) : HasRow (front ++ text) row := by
  rcases has with ⟨before, rest, rfl⟩
  exact ⟨front ++ before, rest, by rw [List.append_assoc]⟩

theorem HasRow.before (has : HasRow text row) (back : List Char) : HasRow (text ++ back) row := by
  rcases has with ⟨front, rest, rfl⟩
  exact ⟨front, rest ++ back, by simp⟩

theorem hasRow_table {headings alignments : List String} (notEmpty : row ≠ [])
    (member : row ∈ rows) :
    HasRow (table headings alignments rows).toList row := by
  rcases List.append_of_mem member with ⟨front, back, rfl⟩
  have parts : headings :: alignments :: (front ++ row :: back) =
      (headings :: alignments :: front) ++ row :: back := rfl
  rcases List.eq_nil_or_concat (headings :: alignments :: front) with empty | ⟨init, last, equal⟩
  · cases empty
  · refine ⟨rowsText init ++ (cells last).toList, rowsText back, ?_⟩
    rw [toList_table, parts, equal, List.concat_eq_append, rowsText_append, rowsText_append]
    simp [rowsText, toList_cells notEmpty, List.flatMap_map]

/-! ## Lines and cells -/

def IsPlain (text : String) : Prop :=
  '\n' ∉ text.toList ∧ '|' ∉ text.toList

/-- The bars cut a line into cells with the given texts, and nothing stands outside the bars. -/
def HasCells (line : List Char) (row : List String) : Prop :=
  line.splitOn '|' = ([] :: row.map padded) ++ [[]]

/-- There is one line for each row, in the order of the rows, and it has the cells of the row. -/
def ShowsRows (text : List Char) (rows : List (List String)) : Prop :=
  ∃ lines, text.splitOn '\n' = lines ++ [[]] ∧ List.Forall₂ HasCells lines rows

def HasShape (text : List Char) (height columns : ℕ) : Prop :=
  ∃ lines, text.splitOn '\n' = lines ++ [[]] ∧ lines.length = height ∧
    ∀ line ∈ lines, (line.splitOn '|').length = columns + 2

theorem HasCells.width {line : List Char} (has : HasCells line row) :
    (line.splitOn '|').length = row.length + 2 := by
  rw [has, List.length_append, List.length_cons, List.length_map]
  rfl

theorem ShowsRows.hasShape (faithful : ShowsRows text rows)
    (even : ∀ row ∈ rows, row.length = columns) : HasShape text rows.length columns := by
  rcases faithful with ⟨lines, split, shown⟩
  refine ⟨lines, split, shown.length_eq, ?_⟩
  clear split
  induction shown with
  | nil => exact List.forall_mem_nil _
  | cons has _ induction =>
      rw [List.forall_mem_cons] at even ⊢
      exact ⟨even.1 ▸ has.width, induction even.2⟩

/-! ## Plain texts -/

theorem lineFeed_not_mem_cells_iff (notEmpty : row ≠ []) :
    '\n' ∉ (cells row).toList ↔ ∀ text ∈ row, '\n' ∉ text.toList := by
  rw [toList_cells notEmpty]
  simp [padded]

theorem bar_not_mem_padded_iff :
    (∀ piece ∈ [] :: row.map padded, '|' ∉ piece) ↔ ∀ text ∈ row, '|' ∉ text.toList := by
  simp [padded]

theorem hasCells_of_plain (notEmpty : row ≠ []) (plain : ∀ text ∈ row, IsPlain text) :
    HasCells (cells row).toList row := by
  rw [HasCells, toList_cells notEmpty]
  exact Text.splitOn_flatMap_of_plain
    (bar_not_mem_padded_iff.mpr fun text member => (plain text member).2)

theorem splitOn_rowsText (notEmpty : ∀ row ∈ rows, row ≠ [])
    (plain : ∀ row ∈ rows, ∀ text ∈ row, '\n' ∉ text.toList) :
    (rowsText rows).splitOn '\n' = (rows.map fun row => (cells row).toList) ++ [[]] := by
  apply Text.splitOn_flatMap_of_plain
  intro line inLines
  rcases List.mem_map.mp inLines with ⟨row, member, rfl⟩
  exact (lineFeed_not_mem_cells_iff (notEmpty row member)).mpr (plain row member)

theorem showsRows_of_plain (notEmpty : ∀ row ∈ rows, row ≠ [])
    (plain : ∀ row ∈ rows, ∀ text ∈ row, IsPlain text) : ShowsRows (rowsText rows) rows := by
  refine ⟨_, splitOn_rowsText notEmpty fun row member text inRow =>
    (plain row member text inRow).1, ?_⟩
  rw [List.forall₂_map_left_iff, List.forall₂_same]
  intro row member
  exact hasCells_of_plain (notEmpty row member) (plain row member)

/-- A line feed in a text makes one line more than there are rows, and a bar makes one cell more
than there are columns. -/
theorem plain_of_hasShape (notEmpty : 0 < columns) (even : ∀ row ∈ rows, row.length = columns)
    (shape : HasShape (rowsText rows) rows.length columns) :
    ∀ row ∈ rows, ∀ text ∈ row, IsPlain text := by
  have filled (row : List String) (member : row ∈ rows) : row ≠ [] :=
    List.ne_nil_of_length_pos (even row member ▸ notEmpty)
  rcases shape with ⟨lines, split, height, width⟩
  have noFeeds : ∀ row ∈ rows, ∀ text ∈ row, '\n' ∉ text.toList := by
    have count : ((rowsText rows).splitOn '\n').length =
        (rows.map fun row => (cells row).toList).length + 1 := by
      rw [split, List.length_append, height, List.length_map]
      rfl
    intro row member
    rw [← lineFeed_not_mem_cells_iff (filled row member)]
    exact Text.length_splitOn_flatMap_iff.mp count _ (List.mem_map_of_mem member)
  rw [splitOn_rowsText filled noFeeds, List.append_left_inj] at split
  intro row member text inRow
  refine ⟨noFeeds row member text inRow, ?_⟩
  have cut := width (cells row).toList (split ▸ List.mem_map_of_mem member)
  rw [toList_cells (filled row member)] at cut
  refine bar_not_mem_padded_iff.mp (Text.length_splitOn_flatMap_iff.mp ?_) text inRow
  rw [cut, List.length_cons, List.length_map, even row member]

end SignalReplay.Markdown
