import GoalPlanner.Plan.Record
import GoalPlanner.Text.Markup
import GoalPlanner.Text.Styled.Lines

/-!
# Reports of offline planning

What is reported: the plans found and, if asked for, the actions that pruning keeps (`Report`), as JSON or as a table
(`Report.sheet`). The texts of a table may be marked up, and only what is shown of them is kept. A column is as wide as
the widest line in it, tabs aside (`columnWidth`); a text of several lines, or one that its tabs make too wide, takes
several rows.

No result depends on how a table is drawn. What is said of reports speaks of the plans, of the names listed and of the
report as JSON, and would be the same with any other drawing in the place of `Report.table`.
-/

namespace GoalPlanner.Offline

open Text (Styled)

/-- How a report is set. -/
inductive Form
  | json
  | table
  deriving DecidableEq, Repr

/-- The result of offline planning. -/
structure Report where
  plans : List (Plan Float)
  kept : Option (List String)

/-- Why a report cannot be set as a table. -/
inductive SheetError
  /-- A text is marked up the wrong way. -/
  | markup (e : Text.Markup.Error)
  /-- A line does not fit and cannot be cut. -/
  | cut (e : Text.CutError)
  deriving DecidableEq, Repr

/-- The texts of a table: its heading and its rows. -/
structure Table where
  heading : List String
  rows : List (List String)

/-- A report in its form. -/
inductive Sheet
  | json (text : String)
  /-- A table and the lines below it. -/
  | table (t : Table) (tail : List String)

namespace Report

/-- The report in JSON. -/
def json (r : Report) : String :=
  let kept := match r.kept with
    | some names => [(Value.text "pruned_actions", Value.list (names.map .text))]
    | none => []
  (Value.mapping ((.text "plans", .list (r.plans.map Plan.toValue)) :: kept)).toJson .report ++ "\n"

/-- The columns of the table: headings with the texts of all plans. -/
def columns (r : Report) : List (String × List String) :=
  [("Goal", r.plans.map fun p => p.goal.name),
    ("Actions", r.plans.map fun p => if p.complete then "(already satisfied)" else " -> ".intercalate p.shape),
    ("Cost", r.plans.map fun p => Cost.twoPlaces p.cost),
    ("Net value", r.plans.map fun p => Cost.twoPlaces p.netValue)]

/-- The line below a table that lists actions. -/
def keptLine (names : List String) : String := "Pruned actions: " ++ ", ".intercalate names

/-- How wide a column is: as wide as its heading or the widest line in it, where tabs take no room. -/
def columnWidth (heading : String) (texts : List Styled) : Nat :=
  let lines := heading.toList :: texts.flatMap fun t => t.text.splitOnP Text.isLineEnd
  (lines.map Text.cells).foldl max 0

/-- The lines of a text in a column, once the styles set in them are checked. -/
def setText (width : Nat) (t : Styled) : Except SheetError (List String) := do
  let lines ← (t.lines.flatMap fun line => line.withoutTabs.folded width).mapM fun line =>
    (line.fitted width).mapError .cut
  (Text.Markup.checkSpans (lines.flatMap Styled.spans)).mapError .markup
  lines.mapM fun line => (String.ofList <$> line.drawn width).mapError .cut

/-- The lines of a row, each with a line of every cell; it is empty in a cell that has no more lines. -/
def rowLines (row : List (List String)) : List (List String) :=
  (List.range ((row.map List.length).foldl max 0)).map fun i => row.map fun cell => cell[i]?.getD ""

/-- A marked-up text. -/
def readText (s : String) : Except SheetError Styled := (Text.Markup.read s).mapError .markup

/-- The plans as a table. All texts are read, column by column, before the first is set; they are set row by row. -/
def table (r : Report) : Except SheetError Table := do
  let read ← r.columns.mapM fun (heading, texts) => do
    let texts ← texts.mapM readText
    return (columnWidth heading texts, texts)
  let rows ← (List.range r.plans.length).mapM fun i => read.mapM fun (width, texts) =>
    texts[i]?.elim (.ok []) (setText width)
  return ⟨r.columns.map Prod.fst, rows.flatMap rowLines⟩

/-- The lines below the table. They are as long as they have to be. -/
def tail (r : Report) : Except SheetError (List String) := do
  match r.kept with
  | some names =>
    let lines := (← readText (keptLine names)).lines.map Styled.withoutTabs
    (Text.Markup.checkSpans (lines.flatMap Styled.spans)).mapError .markup
    return lines.map fun line => String.ofList line.text
  | none => return []

/-- The report in a form. -/
def sheet (r : Report) : Form → Except SheetError Sheet
  | .json => .ok (.json r.json)
  | .table => return .table (← r.table) (← r.tail)

/-- The exit code: whether there is a plan. -/
def exitCode (r : Report) : Nat := if r.plans.isEmpty then 1 else 0

/-- Whether the states that the plans start from can be listed in order. -/
def sortable (r : Report) : Bool := r.plans.all fun p => p.start.sortable

end Report

end GoalPlanner.Offline
