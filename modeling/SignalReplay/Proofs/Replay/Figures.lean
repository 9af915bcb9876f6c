import SignalReplay.Proofs.Decimal.Places
import SignalReplay.Proofs.Json.Pretty
import SignalReplay.Proofs.Json.Record
import SignalReplay.Proofs.Replay.Artifacts
import SignalReplay.Proofs.Replay.Tables

/-!
Figures in both forms of a report. What the Markdown report gives with four decimals and what the
document gives for it are the same number, but for figures that binary arithmetic puts halfway
between two such numbers.
-/

namespace SignalReplay

open Binary64 Decimal

/-! ## Places in trees -/

namespace Json

inductive Step
  | member (name : String)
  | element (place : Nat)

namespace Node

def part? (node : Node) (step : Step) : Option Node :=
  match node, step with
  | .object members, .member name => (members.find? (·.1 = some name)).map Prod.snd
  | .array elements, .element place => elements[place]?
  | _, _ => none

def at? (node : Node) (path : List Step) : Option Node :=
  path.foldlM part? node

end Node

namespace Value

theorem part?_member {members : List (String × Value)} {name : String} {value : Value}
    (found : members.find? (·.1 = name) = some (name, value)) :
    (Value.object members).node.part? (.member name) = some value.node := by
  rw [node, Record.memberNodes_eq_map, Node.part?, List.find?_map]
  have same : ((fun found : Option String × Node => decide (found.1 = some name)) ∘
      fun member : String × Value => (some member.1, member.2.node)) =
        fun member => decide (member.1 = name) := by
    funext member
    simp
  rw [same, found]
  rfl

theorem elementNodes_eq_map (elements : List Value) :
    elementNodes elements = elements.map Value.node := by
  induction elements with
  | nil => rfl
  | cons element rest induction => rw [elementNodes, induction, List.map_cons]

@[simp]
theorem part?_element (elements : List Value) (place : Nat) :
    (Value.array elements).node.part? (.element place) = elements[place]?.map Value.node := by
  rw [node, elementNodes_eq_map, Node.part?, List.getElem?_map]

end Value

end Json

/-! ## Figures -/

/-- A figure about outcomes as the Markdown report gives it, with a heading and a text behind the
number, and as a member of the document. -/
structure ReportFigure where
  heading : String
  unit : String
  member : String
  value? : CorpusMetrics → Option Float

namespace ReportFigure

def overall : List ReportFigure := [
  ⟨"Expectancy", "R", "expectancy", fun metrics => some metrics.expectancy.value⟩,
  ⟨"Average R", "", "average_r", fun metrics => some metrics.averageR⟩,
  ⟨"Best R", "", "max_r", fun metrics => metrics.maxR⟩,
  ⟨"Worst R", "", "min_r", fun metrics => metrics.minR⟩,
  ⟨"Max Drawdown", "R", "max_drawdown_r", fun metrics => some metrics.maxDrawdown⟩,
  ⟨"Average MAE", "", "average_mae", fun metrics => metrics.averageAdverse⟩,
  ⟨"Average MFE", "", "average_mfe", fun metrics => metrics.averageFavourable⟩]

def ofGroup : List ReportFigure := [
  ⟨"Expectancy", "", "expectancy", fun metrics => some metrics.expectancy.value⟩,
  ⟨"Max DD", "", "max_drawdown_r", fun metrics => some metrics.maxDrawdown⟩]

variable {figure : ReportFigure} {metrics : CorpusMetrics} {value : Float}

theorem mem_figureRows (member : figure ∈ overall) (given : figure.value? metrics = some value) :
    [figure.heading, figureText value ++ figure.unit] ∈ metrics.figureRows := by
  have noUnit : figureText value ++ "" = figureText value := String.append_empty
  simp only [overall, List.mem_cons, List.not_mem_nil, or_false] at member
  rcases member with rfl | rfl | rfl | rfl | rfl | rfl | rfl
  all_goals
    simp only [Option.some.injEq] at given
    simp [CorpusMetrics.figureRows, optionalFigureText, given]

theorem find?_overall (member : figure ∈ overall) (given : figure.value? metrics = some value) :
    ∃ members, (metrics.rounded Replay.documentDecimals).toJson = .object members ∧
      members.find? (·.1 = figure.member) =
        some (figure.member, .real (roundTo value Replay.documentDecimals)) := by
  refine ⟨_, rfl, ?_⟩
  simp only [overall, List.mem_cons, List.not_mem_nil, or_false] at member
  rcases member with rfl | rfl | rfl | rfl | rfl | rfl | rfl
  all_goals
    simp only [Option.some.injEq] at given
    simp [CorpusMetrics.rounded, Quantity.ofFloat, Json.Value.optional, given]

theorem exists_column {row : GroupRow} (member : figure ∈ ofGroup)
    (given : figure.value? row.metrics = some value) :
    ∃ column : ℕ, GroupRow.headings[column]? = some figure.heading ∧
      row.cells[column]? = some (figureText value ++ figure.unit) := by
  simp only [ofGroup, List.mem_cons, List.not_mem_nil, or_false] at member
  rcases member with rfl | rfl
  · simp only [Option.some.injEq] at given
    exact ⟨8, rfl, by simp [GroupRow.cells, given]⟩
  · simp only [Option.some.injEq] at given
    exact ⟨9, rfl, by simp [GroupRow.cells, given]⟩

theorem mem_overall_of_mem_ofGroup (member : figure ∈ ofGroup) :
    ∃ other ∈ overall, other.member = figure.member ∧ other.value? = figure.value? := by
  simp only [ofGroup, List.mem_cons, List.not_mem_nil, or_false] at member
  rcases member with rfl | rfl
  · exact ⟨_, .head _, rfl, rfl⟩
  · exact ⟨_, .tail _ (.tail _ (.tail _ (.tail _ (.head _)))), rfl, rfl⟩

end ReportFigure

/-! ## Reports -/

namespace Replay

variable {replay : Replay} {value : Float}

/-- A figure that stands in a cell of a row of the Markdown report and at a path of the document.
The two texts are compared as the numbers they stand for. -/
def Shows (replay : Replay) (row : List String) (column : ℕ) (unit : String)
    (path : List Json.Step) (value : Float) : Prop :=
  ∃ (text : String) (exact : ℚ) (root : Json.Node) (numeral : Json.Numeral),
    Markdown.HasRow replay.markdown.toList row ∧ row[column]? = some (text ++ unit) ∧
    Numeral.Spells text exact ∧
    Json.Node.ofText? replay.document = some root ∧ root.at? path = some (.number numeral) ∧
    RoundedAlike value exact numeral.decimal.toRat

@[simp]
theorem ofText?_document (replay : Replay) :
    Json.Node.ofText? replay.document = some (replay.rounded documentDecimals).toJson.node :=
  Json.Value.ofText?_pretty _

theorem shows_of_found {row : List String} {column : ℕ} {unit : String} {path : List Json.Step}
    (showable : IsShowable value) (inRow : Markdown.HasRow replay.markdown.toList row)
    (cell : row[column]? = some (figureText value ++ unit))
    (found : (replay.rounded documentDecimals).toJson.node.at? path =
      some (Json.Value.real (roundTo value documentDecimals)).node) :
    replay.Shows row column unit path value := by
  rcases shortestValue_roundTo Json.numberLayout.tie showable with ⟨finite, rounded⟩
  rcases Json.exists_node_real finite with ⟨numeral, node, number⟩
  refine ⟨figureText value, _, _, numeral, inRow, cell, spells_fixed (by decide) showable.finite,
    ofText?_document replay, ?_, ?_⟩
  · rw [found, Json.Value.real, Json.Value.node]
    exact congrArg some node
  · rw [number, rounded]
    exact roundedAlike showable

/-! ## Places of figures -/

theorem hasRow_overall {row : List String} (notEmpty : row ≠ [])
    (member : row ∈ replay.report.overall.figureRows) :
    Markdown.HasRow replay.markdown.toList row := by
  have inTable : Markdown.HasRow (Markdown.table ["Metric", "Value"] [Markdown.left, Markdown.left]
      replay.report.overall.figureRows).toList row := Markdown.hasRow_table notEmpty member
  unfold markdown
  simp only [String.toList_append]
  exact ((((((inTable.after _).before _).before _).before _).before _).before _).before _

theorem hasRow_group {row : GroupRow} (member : row ∈ replay.report.groups) :
    Markdown.HasRow replay.markdown.toList row.cells := by
  have inTable : Markdown.HasRow (groupTable replay.report.groups).toList row.cells := by
    have some : ¬ replay.report.groups.isEmpty = true := by
      rw [List.isEmpty_iff]
      exact List.ne_nil_of_mem member
    rw [groupTable, if_neg some]
    exact Markdown.hasRow_table (List.cons_ne_nil _ _) (List.mem_map_of_mem member)
  unfold markdown
  simp only [String.toList_append]
  exact inTable.after _

theorem at?_overall {figure : ReportFigure} (member : figure ∈ ReportFigure.overall)
    (given : figure.value? replay.report.overall = some value) :
    (replay.rounded documentDecimals).toJson.node.at? [.member "overall", .member figure.member] =
      some (Json.Value.real (roundTo value documentDecimals)).node := by
  rcases ReportFigure.find?_overall member given with ⟨members, written, found⟩
  have overall : (replay.rounded documentDecimals).toJson.node.part? (.member "overall") =
      some (replay.report.overall.rounded documentDecimals).toJson.node :=
    Json.Value.part?_member rfl
  rw [Json.Node.at?, List.foldlM_cons, overall, written]
  simp [Json.Value.part?_member found]

theorem at?_group {figure : ReportFigure} (member : figure ∈ ReportFigure.ofGroup) {place : ℕ}
    {row : GroupRow} (inGroups : replay.report.groups[place]? = some row)
    (given : figure.value? row.metrics = some value) :
    (replay.rounded documentDecimals).toJson.node.at?
        [.member "groups", .element place, .member "metrics", .member figure.member] =
      some (Json.Value.real (roundTo value documentDecimals)).node := by
  rcases ReportFigure.mem_overall_of_mem_ofGroup member with ⟨other, inOverall, name, value?⟩
  rw [← value?] at given
  rcases ReportFigure.find?_overall inOverall given with ⟨members, written, found⟩
  rw [name] at found
  have groups : (replay.rounded documentDecimals).toJson.node.part? (.member "groups") =
      some (Json.Value.array ((replay.report.groups.map (·.rounded documentDecimals)).map
        GroupRow.toJson)).node :=
    Json.Value.part?_member rfl
  have metrics : (row.rounded documentDecimals).toJson.node.part? (.member "metrics") =
      some (row.metrics.rounded documentDecimals).toJson.node :=
    Json.Value.part?_member rfl
  rw [Json.Node.at?, List.foldlM_cons, groups]
  simp [inGroups, metrics, written, Json.Value.part?_member found]

/-- Every figure with four decimals that has at most nine digits before the point is shown alike,
those about all outcomes and those about each group. -/
theorem figures_shown_alike (replay : Replay) :
    (∀ figure ∈ ReportFigure.overall, ∀ value,
      figure.value? replay.report.overall = some value → IsShowable value →
        ∃ text, replay.Shows [figure.heading, text] 1 figure.unit
          [.member "overall", .member figure.member] value) ∧
    ∀ place row, replay.report.groups[place]? = some row →
      ∀ figure ∈ ReportFigure.ofGroup, ∀ value,
        figure.value? row.metrics = some value → IsShowable value →
          ∃ column : ℕ, GroupRow.headings[column]? = some figure.heading ∧
            replay.Shows row.cells column figure.unit
              [.member "groups", .element place, .member "metrics", .member figure.member]
              value := by
  constructor
  · intro figure member value given showable
    have inRow := hasRow_overall (List.cons_ne_nil _ _) (ReportFigure.mem_figureRows member given)
    exact ⟨_, shows_of_found showable inRow rfl (at?_overall member given)⟩
  · intro place row inGroups figure member value given showable
    rcases ReportFigure.exists_column member given with ⟨column, heading, cell⟩
    exact ⟨column, heading, shows_of_found showable
      (hasRow_group (List.mem_of_getElem? inGroups)) cell (at?_group member inGroups given)⟩

def thirtySecond : Replay :=
  let outcome : Outcome := ⟨"a", .win, some (.ofFloat 0.03125), none, some 3.0, some 100.03125, none⟩
  let metrics := CorpusMetrics.ofOutcomes .standard [outcome]
  { version := currentVersion
    fingerprint := "00"
    tieBreak := .loss
    candleCount := 1
    signalCount := 1
    report := ⟨metrics, [⟨⟨"EURUSD", "M5", none, none, .long⟩, metrics⟩]⟩
    outcomes := [outcome] }

theorem expectancy_thirtySecond :
    thirtySecond.report.overall.expectancy.value = 0.03125 ∧ IsShowable 0.03125 :=
  ⟨by decide +kernel, isShowable_of_bits (by decide)⟩

theorem figures_shown_alike_of_one_trade :
    IsShowable 3.0 ∧ thirtySecond.report.overall.averageFavourable = some 3.0 ∧
      (∃ text, thirtySecond.Shows ["Average MFE", text] 1 ""
        [.member "overall", .member "average_mfe"] 3.0) ∧
      ∃ row, thirtySecond.report.groups[0]? = some row ∧ IsShowable 0.03125 ∧
        ∃ column : ℕ, GroupRow.headings[column]? = some "Expectancy" ∧
          thirtySecond.Shows row.cells column ""
            [.member "groups", .element 0, .member "metrics", .member "expectancy"] 0.03125 := by
  have showable : IsShowable 3.0 := isShowable_of_bits (by decide)
  have favourable : thirtySecond.report.overall.averageFavourable = some 3.0 := by decide +kernel
  rcases expectancy_thirtySecond with ⟨expectancy, small⟩
  rcases figures_shown_alike thirtySecond with ⟨overall, groups⟩
  refine ⟨showable, favourable, overall _ (.tail _ (.tail _ (.tail _ (.tail _ (.tail _
    (.tail _ (.head _))))))) 3.0 favourable showable, _, rfl, small, ?_⟩
  exact groups 0 _ rfl _ (.head _) 0.03125 (congrArg some expectancy) small

/-- A thirty-second is halfway between two numbers with four decimals. The Markdown report gives the
even one, and the document the greater one. -/
theorem shown_differently_at_a_half :
    thirtySecond.report.overall.expectancy.value = 0.03125 ∧ IsShowable 0.03125 ∧
      Markdown.HasRow thirtySecond.markdown.toList ["Expectancy", "0.0312" ++ "R"] ∧
      Numeral.Spells "0.0312" (312 / 10 ^ 4) ∧
      ∃ root numeral, Json.Node.ofText? thirtySecond.document = some root ∧
        root.at? [.member "overall", .member "expectancy"] = some (.number numeral) ∧
        numeral.decimal.toRat = 313 / 10 ^ 4 := by
  rcases expectancy_thirtySecond with ⟨expectancy, showable⟩
  have text : figureText 0.03125 = "0.0312" := by decide +kernel
  have given := congrArg some expectancy
  have inRow := hasRow_overall (List.cons_ne_nil _ _)
    (ReportFigure.mem_figureRows (.head _) given)
  rw [text] at inRow
  have unsigned : isNegative 0.03125 = false := by decide
  have half : |toRat 0.03125| * 10 ^ 4 = (312 : ℕ) + 1 / 2 := by
    rw [abs_toRat, show magnitudeBits 0.03125 = 0x3FA0000000000000 by decide]
    norm_num [magnitude, significand, Binary64.exponent, leadingBit]
  rcases (roundedAlike showable).tie 312 half with ⟨_, binary⟩
  rcases shortestValue_roundTo Json.numberLayout.tie showable with ⟨finite, rounded⟩
  rcases Json.exists_node_real finite with ⟨numeral, node, number⟩
  refine ⟨expectancy, showable, inRow, ?_, _, numeral, ofText?_document _, ?_, ?_⟩
  · refine ⟨⟨false, 312, -4⟩, by decide, ?_⟩
    norm_num [Decimal.toRat, signed]
  · rw [at?_overall (.head _) given, Json.Value.real, Json.Value.node]
    exact congrArg some node
  · rw [number, rounded, binary, unsigned]
    norm_num [signed]

end Replay

end SignalReplay
